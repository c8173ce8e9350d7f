import BeadsViewer.Cmd.Recipe
/-
  beads_viewer formalization — `pkg/version`: the version string `bv`
  reports.

  * `versionFromBuildInfo` keeps the module version that `go install` stamps
    and drops development builds.  What it returns is empty or a clean tag:
    it starts with `v`, holds no pseudo-version marker `-0.` and does not end
    in `+dirty` (`versionFromBuildInfo_clean`), so a second pass returns it
    unchanged (`versionFromBuildInfo_idem`).
  * `init` prefers the ldflags `version`, then the build information, then
    `fallback`.  Unless the ldflags set it, `Version` is a clean tag, never
    empty (`init_clean`); the ldflags value is taken verbatim.
-/

namespace BeadsViewer.Version

open Cmd (contains)

/-- `strings.HasSuffix`. -/
def hasSuffix (s suffix : String) : Bool := decide (suffix.data <:+ s.data)

/-- `fallback`, the release tag kept in the source. -/
def fallback : String := "v0.14.4"

/-- `versionFromBuildInfo()`, with `debug.ReadBuildInfo()` given by the main
    module's version, `none` when the binary has no build information. -/
def versionFromBuildInfo (buildInfo : Option String) : String :=
  match buildInfo with
  | none => ""
  | some v =>
    if v = "" ∨ v = "(devel)" then ""
    else if contains v "-0." || hasSuffix v "+dirty" then ""
    else if v.front ≠ 'v' then "v" ++ v else v

/-- `init()`: the value it gives `Version`, from the ldflags `version` and the
    build information. -/
def init (version : String) (buildInfo : Option String) : String :=
  if version ≠ "" then version
  else if versionFromBuildInfo buildInfo ≠ "" then versionFromBuildInfo buildInfo
  else fallback

/-- A clean release tag: what `versionFromBuildInfo` lets through. -/
def Clean (v : String) : Prop :=
  v.front = 'v' ∧ contains v "-0." = false ∧ hasSuffix v "+dirty" = false

/-! ## Prefixing `v` -/

/-- The `v` put in front cannot start a `-0.` marker. -/
theorem contains_v_append (v : String) : contains ("v" ++ v) "-0." = contains v "-0." := by
  have hp : ¬ "-0.".data <+: 'v' :: v.data := by
    rintro ⟨t, ht⟩
    simp at ht
  simp only [contains, String.data_append, show "v".data = ['v'] from rfl, List.singleton_append,
    List.infix_cons_iff, hp, false_or]

/-- The `v` put in front cannot end a `+dirty` suffix. -/
theorem hasSuffix_v_append (v : String) : hasSuffix ("v" ++ v) "+dirty" = hasSuffix v "+dirty" := by
  have he : "+dirty".data ≠ 'v' :: v.data := by simp
  simp only [hasSuffix, String.data_append, show "v".data = ['v'] from rfl, List.singleton_append,
    List.suffix_cons_iff, he, false_or]

/-! ## What `bv` reports -/

theorem versionFromBuildInfo_clean (buildInfo : Option String) :
    versionFromBuildInfo buildInfo = "" ∨ Clean (versionFromBuildInfo buildInfo) := by
  rcases buildInfo with _ | v
  · exact .inl rfl
  simp only [versionFromBuildInfo]
  split_ifs with h₁ h₂ h₃
  · exact .inl rfl
  · exact .inl rfl
  · simp only [Bool.or_eq_true, not_or, Bool.not_eq_true] at h₂
    exact .inr ⟨rfl, by rw [contains_v_append, h₂.1], by rw [hasSuffix_v_append, h₂.2]⟩
  · simp only [Bool.or_eq_true, not_or, Bool.not_eq_true, not_not] at h₂ h₃
    exact .inr ⟨h₃, h₂⟩

/-- A clean tag goes through `versionFromBuildInfo` unchanged. -/
theorem versionFromBuildInfo_of_clean {v : String} (h : Clean v) : versionFromBuildInfo (some v) = v := by
  obtain ⟨hv, hc, hs⟩ := h
  have hne : v ≠ "" := fun h => by subst h; exact absurd hv (by decide)
  have hdev : v ≠ "(devel)" := fun h => by subst h; exact absurd hv (by decide)
  simp [versionFromBuildInfo, hne, hdev, hc, hs, hv]

theorem versionFromBuildInfo_idem (buildInfo : Option String) :
    versionFromBuildInfo (some (versionFromBuildInfo buildInfo)) = versionFromBuildInfo buildInfo := by
  rcases versionFromBuildInfo_clean buildInfo with h | h
  · rw [h]; rfl
  · exact versionFromBuildInfo_of_clean h

/-- Without an ldflags version, `Version` is a clean tag: from the build
    information, or the fallback. -/
theorem init_clean (buildInfo : Option String) : Clean (init "" buildInfo) := by
  simp only [init, ne_eq, not_true_eq_false, if_false]
  split_ifs with h
  · exact ⟨rfl, by decide, by decide⟩
  · exact (versionFromBuildInfo_clean buildInfo).resolve_left h

end BeadsViewer.Version
