import Mathlib.Data.List.Basic
/-
  beads_viewer formalization — the issue model (`pkg/model`) as the analysis,
  the loaders and the viewer read it.

  * `Status`, `IssueType` and `DependencyType` are Go's string types: open
    enums whose known values are named constants.
  * `Dependency` is one typed edge owned by an issue; `Issue` the fields of
    `model.Issue` that a modelled function reads or writes.
  * `Time` is `time.Time` as an instant: nanoseconds since the zero time, so
    that `IsZero`, `Before` and `After` are integer comparisons.
-/

namespace BeadsViewer

/-- `model.Status`. -/
structure Status where
  val : String
  deriving DecidableEq, Repr, Inhabited

namespace Status
def «open» : Status := ⟨"open"⟩
def inProgress : Status := ⟨"in_progress"⟩
def blocked : Status := ⟨"blocked"⟩
def deferred : Status := ⟨"deferred"⟩
def pinned : Status := ⟨"pinned"⟩
def hooked : Status := ⟨"hooked"⟩
def closed : Status := ⟨"closed"⟩
def tombstone : Status := ⟨"tombstone"⟩
end Status

/-- `model.IssueType`. -/
structure IssueType where
  val : String
  deriving DecidableEq, Repr, Inhabited

namespace IssueType
def task : IssueType := ⟨"task"⟩
def bug : IssueType := ⟨"bug"⟩
def feature : IssueType := ⟨"feature"⟩
def epic : IssueType := ⟨"epic"⟩
def chore : IssueType := ⟨"chore"⟩
end IssueType

/-- `model.DependencyType`. -/
structure DependencyType where
  val : String
  deriving DecidableEq, Repr, Inhabited

namespace DependencyType
def blocks : DependencyType := ⟨"blocks"⟩
def related : DependencyType := ⟨"related"⟩
def parentChild : DependencyType := ⟨"parent-child"⟩
def discoveredFrom : DependencyType := ⟨"discovered-from"⟩
end DependencyType

/-- `time.Time`, as nanoseconds since the zero `time.Time{}`. -/
structure Time where
  nanos : Int
  deriving DecidableEq, Repr, Inhabited

namespace Time
/-- `time.Time{}`. -/
def zero : Time := ⟨0⟩
def IsZero (t : Time) : Bool := t.nanos == 0
def Before (t u : Time) : Bool := decide (t.nanos < u.nanos)
def After (t u : Time) : Bool := decide (u.nanos < t.nanos)
end Time

/-- `model.Dependency`: `issueID` depends on `dependsOnID`. -/
structure Dependency where
  issueID : String
  dependsOnID : String
  type : DependencyType
  deriving DecidableEq, Repr, Inhabited

/-- `model.Issue`, with the fields the modelled code reads or writes. -/
structure Issue where
  id : String
  title : String
  description : String
  status : Status
  issueType : IssueType
  priority : Int
  createdAt : Time
  updatedAt : Time
  closedAt : Option Time
  assignee : String
  labels : List String
  dependencies : List Dependency
  deriving DecidableEq, Repr, Inhabited

/-- The ids of an issue list, in order. -/
def ids (issues : List Issue) : List String := issues.map Issue.id

end BeadsViewer
