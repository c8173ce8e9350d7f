import BeadsViewer.GoMap
import BeadsViewer.Model
import Mathlib.Data.List.Infix
import Mathlib.Data.String.Basic
/-
  beads_viewer formalization — the recipe layer of `bv` (`cmd/bv/main.go`):
  `applyRecipeFilters` and `applyRecipeSort`, which shrink and order the
  issues before analysis.

  * `FilterConfig`, `SortConfig` and `Recipe` are the fields of
    `recipe.Recipe` the two functions read.  The `recipe` package is not part
    of the sources, so `recipe.ParseRelativeTime` is the parameter
    `parseRelativeTime`; Go's Unicode case mapping (`strings.EqualFold`,
    `strings.ToLower`) is the parameters `equalFold` and `toLower`, and
    `time.Now()` the parameter `now`.
  * `applyRecipeFilters` keeps, in order, the issues that pass every filter
    the recipe sets.  Its blocker set `openBlockers` holds every issue that is
    not `closed`, so a `tombstone` blocker still blocks
    (`applyRecipeFilters_actionable`, `applyRecipeFilters_hasBlockers`).
  * `applyRecipeSort` runs `sort.SliceStable` (`SliceStableSort`) on the
    recipe's key.  Ascending, `less` is the key's own strict weak order
    (`recipeLess_of_ascending`, `keyLess_strictWeak`), under which
    `sort.SliceStable` is a stable sort.  Descending, `less` is
    negated, so equal keys compare less both ways: on at most 20 issues,
    where `sort.SliceStable` is insertion sort, the issues of each key come
    out in the reverse of their input order (`applyRecipeSort_descending`).
-/

namespace BeadsViewer.Cmd

/-- `recipe.FilterConfig`, by the fields `applyRecipeFilters` reads; the zero
    value sets no filter. -/
structure FilterConfig where
  status : List String := []
  priority : List Int := []
  tags : List String := []
  excludeTags : List String := []
  createdAfter : String := ""
  createdBefore : String := ""
  updatedAfter : String := ""
  updatedBefore : String := ""
  hasBlockers : Option Bool := none
  actionable : Option Bool := none
  titleContains : String := ""
  idPrefix : String := ""
  deriving DecidableEq, Repr

/-- `recipe.SortConfig`: the key's name and `"asc"`, `"desc"` or `""`. -/
structure SortConfig where
  field : String := ""
  direction : String := ""
  deriving DecidableEq, Repr

/-- `recipe.Recipe`, by the fields `applyRecipeFilters` and `applyRecipeSort`
    read. -/
structure Recipe where
  filters : FilterConfig := {}
  sort : SortConfig := {}
  deriving DecidableEq, Repr

/-- `strings.Contains`. -/
def contains (s substr : String) : Bool := decide (substr.data <:+: s.data)

/-- `strings.HasPrefix`. -/
def hasPrefix (s pre : String) : Bool := pre.data.isPrefixOf s.data

/-! ## `applyRecipeFilters` -/

/-- The set `openBlockers`: the ids of the issues whose status is not
    `closed`. -/
def openBlockers (issues : List Issue) : GoMap String Bool :=
  issues.foldl (fun m issue => if issue.status ≠ Status.closed then m.set issue.id true else m)
    GoMap.empty

/-- `hasOpenBlockers`, the loop of the `HasBlockers` and `Actionable`
    filters: a `blocks` dependency on an id of `openBlockers`. -/
def hasOpenBlockers (openBlockers : GoMap String Bool) (issue : Issue) : Bool :=
  issue.dependencies.any fun dep =>
    dep.type == DependencyType.blocks && (openBlockers.get? dep.dependsOnID).getD false

section
variable (equalFold : String → String → Bool) (toLower : String → String)
  (parseRelativeTime : String → Time → Except String Time) (now : Time)

/-- One of the four date filters: the issue is dropped when the filter is
    set, its threshold parses, and the issue's time is set and `beyond` the
    threshold (`Before` for `…After`, `After` for `…Before`). -/
def dateFilter (filter : String) (t : Time) (beyond : Time → Time → Bool) : Bool :=
  filter == "" ||
    match parseRelativeTime filter now with
    | .ok threshold => !(!t.IsZero && beyond t threshold)
    | .error _ => true

/-- The body of `applyRecipeFilters`' loop: `issue` passes each filter that
    `f` sets, in the order the loop tests them. -/
def passes (f : FilterConfig) (openBlockers : GoMap String Bool) (issue : Issue) : Bool :=
  (f.status.isEmpty || f.status.any fun s => equalFold issue.status.val s) &&
  (f.priority.isEmpty || f.priority.any fun p => issue.priority == p) &&
  f.tags.all (fun tag => issue.labels.any fun label => equalFold label tag) &&
  !(f.excludeTags.any fun excludeTag => issue.labels.any fun label => equalFold label excludeTag) &&
  dateFilter parseRelativeTime now f.createdAfter issue.createdAt Time.Before &&
  dateFilter parseRelativeTime now f.createdBefore issue.createdAt Time.After &&
  dateFilter parseRelativeTime now f.updatedAfter issue.updatedAt Time.Before &&
  dateFilter parseRelativeTime now f.updatedBefore issue.updatedAt Time.After &&
  (match f.hasBlockers with
    | some b => b == hasOpenBlockers openBlockers issue
    | none => true) &&
  (f.actionable != some true || !hasOpenBlockers openBlockers issue) &&
  (f.titleContains == "" || contains (toLower issue.title) (toLower f.titleContains)) &&
  (f.idPrefix == "" || hasPrefix issue.id f.idPrefix)

/-- `applyRecipeFilters`; `none` is a nil recipe. -/
def applyRecipeFilters (issues : List Issue) : Option Recipe → List Issue
  | none => issues
  | some r => issues.filter (passes equalFold toLower parseRelativeTime now r.filters
      (openBlockers issues))

end

/-! ## The blocker filters -/

/-- `issue` has a `blocks` dependency on the id of an issue of `issues` that
    is not `closed`. -/
def BlockedBy (issues : List Issue) (issue : Issue) : Prop :=
  ∃ d ∈ issue.dependencies, d.type = DependencyType.blocks ∧
    ∃ j ∈ issues, j.id = d.dependsOnID ∧ j.status ≠ Status.closed

instance (issues : List Issue) (issue : Issue) : Decidable (BlockedBy issues issue) :=
  inferInstanceAs (Decidable (∃ d ∈ issue.dependencies, _))

/-- The loop building `openBlockers`, from any map. -/
theorem get?_foldl_openBlockers (id : String) :
    ∀ (issues : List Issue) (m : GoMap String Bool),
      (issues.foldl (fun m issue => if issue.status ≠ Status.closed then m.set issue.id true else m)
        m).get? id =
      if ∃ j ∈ issues, j.id = id ∧ j.status ≠ Status.closed then some true else m.get? id
  | [], m => by simp
  | j :: issues, m => by
    rw [List.foldl_cons, get?_foldl_openBlockers id issues]
    simp only [List.mem_cons, exists_eq_or_imp]
    by_cases hr : ∃ i ∈ issues, i.id = id ∧ i.status ≠ Status.closed
    · simp only [hr, if_true, or_true]
    · simp only [hr, if_false, or_false]
      by_cases hs : j.status = Status.closed <;> simp [hs, eq_comm]

theorem getD_openBlockers (issues : List Issue) (id : String) :
    ((openBlockers issues).get? id).getD false =
      decide (∃ j ∈ issues, j.id = id ∧ j.status ≠ Status.closed) := by
  rw [openBlockers, get?_foldl_openBlockers]
  split_ifs with h <;> simp [h]

/-- The blocker loop tests `BlockedBy`. -/
theorem hasOpenBlockers_openBlockers (issues : List Issue) (issue : Issue) :
    hasOpenBlockers (openBlockers issues) issue = decide (BlockedBy issues issue) := by
  rw [Bool.eq_iff_iff]
  simp [hasOpenBlockers, getD_openBlockers, BlockedBy]

section
variable (equalFold : String → String → Bool) (toLower : String → String)
  (parseRelativeTime : String → Time → Except String Time) (now : Time)

/-- **`Actionable`.**  A recipe whose only filter is `Actionable = true` keeps,
    in order, the issues with no `blocks` dependency on an issue of the list
    that is not `closed`: a `tombstone` blocker blocks. -/
theorem applyRecipeFilters_actionable (issues : List Issue) (s : SortConfig) :
    applyRecipeFilters equalFold toLower parseRelativeTime now issues
        (some ⟨{ actionable := some true }, s⟩) =
      issues.filter fun i => !decide (BlockedBy issues i) := by
  refine congrArg (List.filter · issues) (funext fun i => ?_)
  simp [passes, dateFilter, hasOpenBlockers_openBlockers]

/-- **`HasBlockers`.**  A recipe whose only filter is `HasBlockers = b` keeps,
    in order, the issues for which such a dependency exists iff `b`. -/
theorem applyRecipeFilters_hasBlockers (issues : List Issue) (b : Bool) (s : SortConfig) :
    applyRecipeFilters equalFold toLower parseRelativeTime now issues
        (some ⟨{ hasBlockers := some b }, s⟩) =
      issues.filter fun i => b == decide (BlockedBy issues i) := by
  refine congrArg (List.filter · issues) (funext fun i => ?_)
  simp [passes, dateFilter, hasOpenBlockers_openBlockers]

/-- `A` blocked by the `tombstone` `B`: `Actionable = true` drops `A`. -/
theorem applyRecipeFilters_tombstone_blocker :
    applyRecipeFilters equalFold toLower parseRelativeTime now
        [{ (default : Issue) with id := "A", dependencies := [⟨"A", "B", .blocks⟩] },
          { (default : Issue) with id := "B", status := .tombstone }]
        (some { filters := { actionable := some true } }) =
      [{ (default : Issue) with id := "B", status := .tombstone }] := by
  rfl

end

/-! ## `applyRecipeSort` -/

section
variable (toLower : String → String)

/-- The comparison of `applyRecipeSort`'s switch for `field`, or `none` for
    an unknown field. -/
def fieldLess (field : String) (a b : Issue) : Option Bool :=
  match field with
  | "priority" => some (decide (a.priority < b.priority))
  | "created" => some (a.createdAt.Before b.createdAt)
  | "updated" => some (a.updatedAt.Before b.updatedAt)
  | "title" => some (decide (toLower a.title < toLower b.title))
  | "id" => some (decide (a.id < b.id))
  | "status" => some (decide (a.status.val < b.status.val))
  | _ => none

/-- `ascending`: `Direction != "desc"`, but `priority` ascends and `created`
    and `updated` descend when no direction is given. -/
def isAscending (s : SortConfig) : Bool :=
  let ascending := s.direction != "desc"
  let ascending := if s.field == "priority" && s.direction == "" then true else ascending
  if (s.field == "created" || s.field == "updated") && s.direction == "" then false else ascending

/-- The `less` handed to `sort.SliceStable`: the field's comparison, negated
    when descending, and `false` for an unknown field. -/
def recipeLess (s : SortConfig) (a b : Issue) : Bool :=
  match fieldLess toLower s.field a b with
  | some less => if isAscending s then less else !less
  | none => false

/-- `applyRecipeSort`, with `sort.SliceStable` as `S`; `none` is a nil recipe. -/
def applyRecipeSort (S : SliceStableSort) (issues : List Issue) : Option Recipe → List Issue
  | none => issues
  | some r => if r.sort.field = "" then issues else S.sort (recipeLess toLower r.sort) issues

/-- The field's comparison, ascending; `false` for an unknown field. -/
def keyLess (field : String) (a b : Issue) : Bool := (fieldLess toLower field a b).getD false

/-- Each field's comparison is a strict weak order: it compares a key of a
    linear order, or nothing for an unknown field. -/
theorem keyLess_strictWeak (field : String) : StrictWeak (keyLess toLower field) := by
  have key : ∀ {β : Type} [LinearOrder β] (k : Issue → β),
      (∀ a b, fieldLess toLower field a b = some (decide (k a < k b))) →
      StrictWeak (keyLess toLower field) := fun k hk =>
    StrictWeak.of_key k fun a b => by simp [keyLess, hk]
  by_cases h₁ : field = "priority"
  · exact key Issue.priority fun _ _ => by simp [fieldLess, h₁]
  by_cases h₂ : field = "created"
  · exact key (·.createdAt.nanos) fun _ _ => by simp [fieldLess, h₂, Time.Before]
  by_cases h₃ : field = "updated"
  · exact key (·.updatedAt.nanos) fun _ _ => by simp [fieldLess, h₃, Time.Before]
  by_cases h₄ : field = "title"
  · exact key (toLower ·.title) fun _ _ => by simp [fieldLess, h₄]
  by_cases h₅ : field = "id"
  · exact key Issue.id fun _ _ => by simp [fieldLess, h₅]
  by_cases h₆ : field = "status"
  · exact key (·.status.val) fun _ _ => by simp [fieldLess, h₆]
  -- an unknown field: nothing is less than anything
  have hnone : ∀ a b, keyLess toLower field a b = false := fun a b => by
    simp [keyLess, fieldLess, h₁, h₂, h₃, h₄, h₅, h₆]
  exact ⟨fun a => hnone a a, fun a b _ h => by simp [hnone] at h, fun a _ c h => by simp [hnone] at h⟩

/-- The six fields the switch knows. -/
def knownFields : List String := ["priority", "created", "updated", "title", "id", "status"]

theorem fieldLess_isSome {field : String} (hk : field ∈ knownFields) (a b : Issue) :
    (fieldLess toLower field a b).isSome := by
  simp only [knownFields, List.mem_cons, List.mem_singleton, List.not_mem_nil, or_false] at hk
  rcases hk with rfl | rfl | rfl | rfl | rfl | rfl <;> rfl

theorem recipeLess_of_ascending {s : SortConfig} (h : isAscending s = true) :
    recipeLess toLower s = keyLess toLower s.field := by
  funext a b
  unfold recipeLess keyLess
  cases fieldLess toLower s.field a b <;> simp [h]

theorem recipeLess_of_descending {s : SortConfig} (h : isAscending s = false)
    (hk : s.field ∈ knownFields) : recipeLess toLower s = fun a b => !keyLess toLower s.field a b := by
  funext a b
  obtain ⟨less, hl⟩ := Option.isSome_iff_exists.1 (fieldLess_isSome toLower hk a b)
  simp [recipeLess, keyLess, hl, h]

/-- **Descending recipe sorts reverse ties.**  Sorted descending by a known
    field, a list of at most 20 issues comes out with the issues of each key
    in the reverse of their input order: `sort.SliceStable` runs insertion
    sort with the negated comparison. -/
theorem applyRecipeSort_descending (S : SliceStableSort) (issues : List Issue) (r : Recipe)
    (h : isAscending r.sort = false) (hk : r.sort.field ∈ knownFields) (hn : issues.length ≤ 20)
    (k : Issue) :
    (applyRecipeSort toLower S issues (some r)).filter (incomparable (keyLess toLower r.sort.field) k) =
      (issues.filter (incomparable (keyLess toLower r.sort.field) k)).reverse := by
  have hf : r.sort.field ≠ "" := fun hf => by simp [hf, knownFields] at hk
  rw [applyRecipeSort, if_neg hf, S.small _ _ hn, recipeLess_of_descending toLower h hk]
  exact insertionSort_not_filter (keyLess_strictWeak toLower _) k issues

/-- Three issues, two of equal priority, sorted by descending priority. -/
theorem applyRecipeSort_descending_three :
    let r : Recipe := { sort := { field := "priority", direction := "desc" } }
    let issues := [{ (default : Issue) with id := "A", priority := 1 },
      { (default : Issue) with id := "B", priority := 2 },
      { (default : Issue) with id := "C", priority := 1 }]
    isAscending r.sort = false ∧ r.sort.field ∈ knownFields ∧ issues.length ≤ 20 ∧
      (applyRecipeSort String.toLower insertionSliceStableSort issues (some r)).filter
          (incomparable (keyLess String.toLower r.sort.field) issues[0]) =
        (issues.filter (incomparable (keyLess String.toLower r.sort.field) issues[0])).reverse := by
  intro r issues
  exact ⟨rfl, by decide, by decide, applyRecipeSort_descending String.toLower
    insertionSliceStableSort issues r rfl (by decide) (by decide) _⟩

/-- Two issues of equal priority, sorted by descending priority: `less` is
    negated, the second compares less than the first, and the sort swaps
    them. -/
theorem applyRecipeSort_desc_ties_swapped (S : SliceStableSort) :
    applyRecipeSort toLower S
        [{ (default : Issue) with id := "A", priority := 1 },
          { (default : Issue) with id := "B", priority := 1 }]
        (some { sort := { field := "priority", direction := "desc" } }) =
      [{ (default : Issue) with id := "B", priority := 1 },
        { (default : Issue) with id := "A", priority := 1 }] := by
  rw [applyRecipeSort, if_neg (by decide), S.small _ _ (by decide)]
  rfl

end

end BeadsViewer.Cmd
