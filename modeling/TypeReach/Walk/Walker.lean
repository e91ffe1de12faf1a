import TypeReach.Walk.Basic

/-!
# Walkers

A walker keeps its marks from one walk to the next. Loading fails with the fault of the walk;
checking gives a failed resolution back as a result and fails with other faults only.
-/

namespace TypeReach

/-- A walker: its switches and the descriptors that it has marked, the latest first. -/
structure Walker (δ : Type) where
  options : WalkOptions := {}
  marked : List δ := []

/-- What came of one walk: the outcome, the marks left, moves, notes and calls in order, and the
memory of the provider. -/
structure WalkReport (σ δ β : Type) where
  outcome : Except Fault β
  marked : List δ
  moves : List (Move δ)
  notes : List Note
  calls : List Call
  memory : σ

/-- The report of a walk that ended in a state. -/
def WalkReport.ofState {σ δ β : Type} (outcome : Except Fault β) (s : WalkState σ δ) :
    WalkReport σ δ β where
  outcome := outcome
  marked := s.marked
  moves := s.moves.reverse
  notes := s.notes.reverse
  calls := s.calls.reverse
  memory := s.memory

namespace Walker

variable {σ δ α ν β : Type}

/-- Runs a step of a walk from the marks of a walker. -/
def run (w : Walker δ) (step : Walk σ δ β) (memory : σ) : WalkReport σ δ β :=
  match step { marked := w.marked, moves := [], notes := [], calls := [], memory } with
  | .ok b s => .ofState (.ok b) s
  | .error fault s => .ofState (.error fault) s

variable [DecidableEq δ]

/-- Walks the closure of a root, with at most `depth` types open at once. -/
def load (p : Provider σ δ α ν) (depth : Nat) (w : Walker δ) (memory : σ) (root : TypeRef δ) :
    WalkReport σ δ Unit :=
  w.run (Walk.reference (Walk.type p w.options depth) root) memory

/-- The failed resolution that a walk ended with, if any; other faults stay faults. -/
def failure : Except Fault Unit → Except Fault (Option Fault)
  | .ok () => .ok none
  | .error (.unresolved typeName cause) => .ok (some (.unresolved typeName cause))
  | .error fault => .error fault

/-- Walks the closure of a root and gives a failed resolution back as a result. -/
def check (p : Provider σ δ α ν) (depth : Nat) (w : Walker δ) (memory : σ) (root : TypeRef δ) :
    WalkReport σ δ (Option Fault) :=
  let r := load p depth w memory root
  { r with outcome := failure r.outcome }

end Walker

end TypeReach
