import BeadsViewer.Analysis.Stats
/-
  beads_viewer formalization — how the cycles of `Analyze` are shown:
  `formatCycle` of `cmd/bv/main.go`, and the cycle lines of the insights view
  of `pkg/ui`.

  The insights view joins a cycle's ids with ` -> `; `formatCycle` joins them
  with ` → ` and then appends the first id once more, as for a cycle given
  without its closing id.  The cycles of `Analyze` are closed already
  (`analyze_cycles_closed`), so `formatCycle` shows the first id twice at the
  end (`formatCycle_eq`).
-/

namespace BeadsViewer

/-- `formatCycle`. -/
def formatCycle (cycle : List String) : String :=
  match cycle with
  | [] => "(empty)"
  | c₀ :: rest => rest.foldl (fun r c => r ++ " → " ++ c) c₀ ++ " → " ++ c₀

/-- A cycle's line in the insights view: `fmt.Sprintf("• %s\n",
    strings.Join(cycle, " -> "))`. -/
def insightsCycleLine (cycle : List String) : String :=
  "• " ++ " -> ".intercalate cycle ++ "\n"

theorem intercalate_go (s : String) :
    ∀ (cs : List String) (acc : String),
      String.intercalate.go acc s cs = cs.foldl (fun r c => r ++ s ++ c) acc
  | [], _ => rfl
  | c :: cs, acc => intercalate_go s cs (acc ++ s ++ c)

/-- `formatCycle` joins the cycle with its first id appended once more. -/
theorem formatCycle_eq (c₀ : String) (rest : List String) :
    formatCycle (c₀ :: rest) = " → ".intercalate (c₀ :: rest ++ [c₀]) := by
  simp [formatCycle, String.intercalate, intercalate_go, List.foldl_append]

open Analysis in
/-- Two issues that depend on each other: `Analyze` returns their cycle
    closed, and `formatCycle` shows `A` twice at its end. -/
theorem formatCycle_two_cycle :
    ∃ a, newAnalyzer [{ (default : Issue) with id := "A", dependencies := [⟨"A", "B", .blocks⟩] },
        { (default : Issue) with id := "B", dependencies := [⟨"B", "A", .blocks⟩] }] = .ok a ∧
      Run.Of a.g (Run.listed a.g [0, 1]) ∧
      (a.analyze (Run.listed a.g [0, 1])).map (·.cycles) = .ok [["A", "B", "A"]] ∧
      formatCycle ["A", "B", "A"] = "A → B → A → A" ∧
      insightsCycleLine ["A", "B", "A"] = "• A -> B -> A\n" :=
  ⟨_, rfl, Run.listed_of (by decide) (by decide), rfl, by decide, by decide⟩

end BeadsViewer
