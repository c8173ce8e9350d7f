import BeadsViewer.Analysis.Stats
import Mathlib.Data.Finset.Prod
import Mathlib.Algebra.Order.Field.Rat
/-
  beads_viewer formalization — the density step of `Analyze`, on every run.

  * `PageRank` has one key per distinct issue id: `network.PageRank` scores
    every node, and `nodeToID` names each node by its issue's id
    (`Builds.pageRankOf_len`).
  * The edges of the graph `NewAnalyzer` builds join two distinct ids: an
    edge's ends are the nodes `idToNode` holds for their ids, and `SetEdge`
    panics on a self edge.  So for `k` distinct ids there are at most
    `k·(k−1)` edges, however many extra nodes repeated ids add
    (`Builds.edges_length_le`).
  * Hence `Density` is `|E| / (k·(k−1))` for `k > 1`, else `0`, and lies in
    `[0, 1]` (`analyze_density`), computed exactly.
-/

namespace BeadsViewer.Analysis

open Gonum

variable {issues : List Issue} {a : Analyzer}

/-! ## The keys of `PageRank` -/

theorem isSome_pageRankOf (a : Analyzer) (pr : List (Nat × ℚ)) (k : String) :
    ((a.pageRankOf pr).get? k).isSome ↔ k ∈ (pr.map Prod.fst).map a.idOf := by
  simpa [Function.comp_def] using
    GoMap.isSome_get?_foldl_set (fun e : Nat × ℚ => a.idOf e.1) Prod.snd k pr GoMap.empty

/-- `len(stats.PageRank)` is the number of distinct issue ids. -/
theorem Builds.pageRankOf_len (hb : Builds issues a) {pr : List (Nat × ℚ)}
    (hpr : List.Perm (pr.map Prod.fst) a.g.nodes) :
    (a.pageRankOf pr).len = (ids issues).dedup.length :=
  GoMap.len_eq_dedup _ _ fun k => by
    rw [isSome_pageRankOf, ← hb.map_idOf_range, ← hb.nodes]
    exact (hpr.map a.idOf).mem_iff

/-! ## The edges join distinct ids -/

/-- An edge's ends are the nodes `idToNode` holds for their ids. -/
theorem Builds.idToNode_idOf (hb : Builds issues a) {u v : Nat} (h : a.g.Adj u v) :
    a.idToNode.get? (a.idOf u) = some u ∧ a.idToNode.get? (a.idOf v) = some v := by
  obtain ⟨i, -, hiu, d, -, hdv⟩ := (hb.adj u v).1 h
  obtain ⟨hu, hu'⟩ := hb.idToNode_some _ _ hiu
  obtain ⟨hv, hv'⟩ := hb.idToNode_some _ _ hdv
  rw [hb.idOf_getElem u hu, hu', hb.idOf_getElem v hv, hv']
  exact ⟨hiu, hdv⟩

/-- **At most `k·(k−1)` edges** for `k` distinct ids: reading each edge as
    the pair of its ends' ids maps the edges one-to-one into the pairs of
    distinct ids. -/
theorem Builds.edges_length_le (hb : Builds issues a) :
    a.g.edges.length ≤ (ids issues).dedup.length * ((ids issues).dedup.length - 1) := by
  let f : Nat × Nat → String × String := fun e => (a.idOf e.1, a.idOf e.2)
  have hinj : ∀ e ∈ a.g.edges, ∀ e' ∈ a.g.edges, f e = f e' → e = e' := by
    rintro ⟨u, v⟩ he ⟨u', v'⟩ he' hf
    obtain ⟨hu, hv⟩ := Prod.mk.inj hf
    have h₁ := hb.idToNode_idOf he
    have h₂ := hb.idToNode_idOf he'
    rw [hu, hv, h₂.1, h₂.2] at h₁
    rw [Option.some_inj.1 h₁.1, Option.some_inj.1 h₁.2]
  have hsub : (a.g.edges.map f).toFinset ⊆ (ids issues).toFinset.offDiag := by
    intro p hp
    obtain ⟨⟨u, v⟩, he, rfl⟩ := List.mem_map.1 (List.mem_toFinset.1 hp)
    have hn := a.g.edges_mem _ he
    have hne : a.idOf u ≠ a.idOf v := fun h => a.g.loopless _ he <| by
      have h₁ := hb.idToNode_idOf he
      rw [h] at h₁
      exact Option.some_inj.1 (h₁.1.symm.trans h₁.2)
    exact Finset.mem_offDiag.2 ⟨List.mem_toFinset.2 (hb.idOf_mem_ids hn.1),
      List.mem_toFinset.2 (hb.idOf_mem_ids hn.2), hne⟩
  calc a.g.edges.length
      = (a.g.edges.map f).toFinset.card := by
        rw [List.toFinset_card_of_nodup (a.g.edges_nodup.map_on hinj), List.length_map]
    _ ≤ (ids issues).toFinset.offDiag.card := Finset.card_le_card hsub
    _ = _ := by rw [Finset.offDiag_card, List.card_toFinset, Nat.mul_sub_one]

/-! ## Density -/

theorem densityOf_eq (n e : Nat) :
    densityOf n e = if 1 < n then (e : ℚ) / (n * (n - 1)) else 0 := by
  simp [densityOf, Nat.one_lt_cast]

theorem densityOf_bounds {n e : Nat} (h : e ≤ n * (n - 1)) :
    0 ≤ densityOf n e ∧ densityOf n e ≤ 1 := by
  rw [densityOf_eq]
  split
  · next hn =>
    have hn' : (1 : ℚ) < n := Nat.one_lt_cast.2 hn
    have hpos : (0 : ℚ) < n * (n - 1) := mul_pos (zero_lt_one.trans hn') (sub_pos.2 hn')
    have hcast : ((n * (n - 1) : Nat) : ℚ) = n * (n - 1) := by
      rw [Nat.cast_mul, Nat.cast_sub (by omega : 1 ≤ n), Nat.cast_one]
    refine ⟨div_nonneg (Nat.cast_nonneg _) hpos.le, (div_le_one₀ hpos).2 ?_⟩
    exact hcast ▸ Nat.cast_le.2 h
  · exact ⟨le_rfl, zero_le_one⟩

/-- **Density.**  On every run of `Analyze` over the graph `NewAnalyzer`
    built, `PageRank` has a key per distinct id, and for `k` of them
    `Density` is `|E| / (k·(k−1))` when `k > 1` and `0` otherwise; so it lies
    in `[0, 1]`. -/
theorem analyze_density (ha : newAnalyzer issues = .ok a) {r : Run} (hr : Run.Of a.g r)
    {stats : GraphStats} (hs : a.analyze r = .ok stats) :
    stats.pageRank.len = (ids issues).dedup.length ∧
      stats.density = (if 1 < (ids issues).dedup.length then
        (a.g.edges.length : ℚ) / ((ids issues).dedup.length * ((ids issues).dedup.length - 1))
        else 0) ∧
      0 ≤ stats.density ∧ stats.density ≤ 1 := by
  have hb := builds_of_ok ha
  have hst : stats.pageRank = a.pageRankOf r.pageRank ∧
      stats.density = densityOf (a.pageRankOf r.pageRank).len a.g.edges.length := by
    rcases analyze_cases hr with ⟨_, _, _, _, h⟩ | ⟨_, h⟩ <;>
      · rw [h] at hs
        cases hs
        exact ⟨rfl, rfl⟩
  rw [hst.1, hst.2, hb.pageRankOf_len hr.2.2.2.2.2.1]
  exact ⟨rfl, densityOf_eq _ _, densityOf_bounds hb.edges_length_le⟩

/-- `A` depends on `B`: two ids and one edge. -/
theorem analyze_density_two :
    ∃ (issues : List Issue) (a : Analyzer) (stats : GraphStats),
      issues = [{ (default : Issue) with id := "A", dependencies := [⟨"A", "B", .blocks⟩] },
        { (default : Issue) with id := "B" }] ∧
      newAnalyzer issues = .ok a ∧ Run.Of a.g (Run.listed a.g [0, 1]) ∧
      a.analyze (Run.listed a.g [0, 1]) = .ok stats ∧
      stats.pageRank.len = (ids issues).dedup.length ∧
      stats.density = (if 1 < (ids issues).dedup.length then
        (a.g.edges.length : ℚ) / ((ids issues).dedup.length * ((ids issues).dedup.length - 1))
        else 0) ∧
      0 ≤ stats.density ∧ stats.density ≤ 1 := by
  refine ⟨_, _, _, rfl, rfl, Run.listed_of (by decide) (by decide), rfl, ?_⟩
  refine analyze_density (r := Run.listed _ [0, 1]) ?_ (Run.listed_of ?_ ?_) ?_ <;> first | decide | rfl

end BeadsViewer.Analysis
