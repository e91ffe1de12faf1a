import TypeReach.Proofs.GraphAnswers
import TypeReach.Proofs.Recording

/-!
# Flattening of references

A walk along a reference is the walk along its leaves from left to right: every descriptor is
visited as if it were loaded alone, on the same walker and from what the visit before left, until
one fails or an unknown node comes up. Nothing that was completed until then loses its mark. This
holds of every provider, also of one that answers differently from time to time.
-/

namespace TypeReach

/-- What a walk meets along a reference: a descriptor to visit, or a node to stop at. -/
inductive Leaf (δ : Type) where
  | descriptor (d : δ)
  | unknown (why : Unwalkable)
  deriving DecidableEq

/-- The descriptor at a leaf, if there is one. -/
def Leaf.descriptor? {δ : Type} : Leaf δ → Option δ
  | descriptor d => some d
  | unknown _ => none

namespace TypeRef

variable {δ : Type}

mutual

/-- The leaves of a reference from left to right: owner before arguments, lower before upper
bounds. -/
def leaves : TypeRef δ → List (Leaf δ)
  | absent => []
  | concrete d => [.descriptor d]
  | parameterized owner args => owner.leaves ++ leavesList args
  | wildcard lower upper => leavesList lower ++ leavesList upper
  | array component => component.leaves
  | unknown why => [.unknown why]

/-- The leaves of several references, in order. -/
def leavesList : List (TypeRef δ) → List (Leaf δ)
  | [] => []
  | r :: rs => r.leaves ++ leavesList rs

end

mutual

theorem filterMap_leaves : ∀ r : TypeRef δ, r.leaves.filterMap Leaf.descriptor? = r.targets
  | .absent => rfl
  | .concrete _ => rfl
  | .parameterized owner args => by
    rw [leaves, targets, List.filterMap_append, filterMap_leaves owner, filterMap_leavesList args]
  | .wildcard lower upper => by
    rw [leaves, targets, List.filterMap_append, filterMap_leavesList lower,
      filterMap_leavesList upper]
  | .array component => filterMap_leaves component
  | .unknown _ => rfl

theorem filterMap_leavesList : ∀ rs : List (TypeRef δ),
    (leavesList rs).filterMap Leaf.descriptor? = targetsList rs
  | [] => rfl
  | r :: rs => by
    rw [leavesList, targetsList, List.filterMap_append, filterMap_leaves r, filterMap_leavesList rs]

end

end TypeRef

namespace Walk

variable {σ δ β : Type}

/-- Visits the descriptor at a leaf, or stops at an unknown node. -/
def leaf (visit : δ → Walk σ δ Unit) : Leaf δ → Walk σ δ Unit
  | .descriptor d => visit d
  | .unknown why => throw (.unwalkable why)

theorem each_append (step : β → Walk σ δ Unit) (as bs : List β) :
    each step (as ++ bs) = each step as >>= fun _ => each step bs := by
  induction as with
  | nil => rfl
  | cons a as ih => simp only [List.cons_append, each, ih, bind_assoc]

mutual

/-- To walk a reference is to visit its leaves, whatever a visit does. -/
theorem reference_eq_each (visit : δ → Walk σ δ Unit) :
    ∀ r : TypeRef δ, reference visit r = each (leaf visit) r.leaves
  | .absent => rfl
  | .concrete d => (bind_pure (visit d)).symm
  | .parameterized owner args => by
    rw [reference, TypeRef.leaves, each_append, reference_eq_each visit owner,
      references_eq_each visit args]
  | .wildcard lower upper => by
    rw [reference, TypeRef.leaves, each_append, references_eq_each visit lower,
      references_eq_each visit upper]
  | .array component => reference_eq_each visit component
  | .unknown _ => rfl

theorem references_eq_each (visit : δ → Walk σ δ Unit) :
    ∀ rs : List (TypeRef δ), references visit rs = each (leaf visit) (TypeRef.leavesList rs)
  | [] => rfl
  | r :: rs => by
    rw [references, TypeRef.leavesList, each_append, reference_eq_each visit r,
      references_eq_each visit rs]

end

theorem Pervasive.leaves {P : ∀ {β : Type}, Walk σ δ β → Prop} (h : Pervasive @P)
    {visit : δ → Walk σ δ Unit} (hv : ∀ d, P (visit d)) (leaves : List (Leaf δ)) :
    P (Walk.each (leaf visit) leaves) := by
  apply h.each
  intro l
  cases l with
  | descriptor d => exact hv d
  | unknown why => exact h.throw (.unwalkable why)

end Walk

namespace Walker

open Walk

variable {σ δ α ν : Type} [DecidableEq δ] {p : Provider σ δ α ν} {depth : Nat} {w : Walker δ} {m : σ}

/-- Walks the types at leaves in order, each from the marks and the memory that the one before left,
and stops at the first one that fails or at an unknown node. -/
def visitLeaves (p : Provider σ δ α ν) (depth : Nat) :
    Walker δ → σ → List (Leaf δ) → WalkReport σ δ Unit
  | w, m, [] => w.run (pure ()) m
  | w, m, .descriptor d :: rest =>
    (w.run (Walk.type p w.options depth d) m).andThen fun marked m =>
      visitLeaves p depth { w with marked } m rest
  | w, m, .unknown why :: _ => w.run (throw (.unwalkable why)) m

/-- A walk along leaves is one walk after the other. -/
theorem run_each_leaf (p : Provider σ δ α ν) (depth : Nat) (w : Walker δ) (m : σ)
    (leaves : List (Leaf δ)) :
    w.run (each (leaf (Walk.type p w.options depth)) leaves) m = w.visitLeaves p depth m leaves := by
  induction leaves generalizing w m with
  | nil => rfl
  | cons l rest ih =>
    cases l with
    | unknown why => rfl
    | descriptor d =>
      have hrest := pervasive_forgets.leaves (forgets_type (p := p) w.options depth) rest
      have hnext := funext fun marked => funext fun m => ih { w with marked } m
      calc w.run (Walk.type p w.options depth d >>= fun _ =>
              each (leaf (Walk.type p w.options depth)) rest) m
        _ = (w.run (Walk.type p w.options depth d) m).andThen fun marked m =>
              ({ w with marked } : Walker δ).run
                (each (leaf (Walk.type p w.options depth)) rest) m := run_bind w _ hrest m
        _ = w.visitLeaves p depth m (.descriptor d :: rest) := congrArg _ hnext

/-- The walk along several leaves is that along the first ones and, unless that fails, that along the
others. -/
theorem visitLeaves_append (p : Provider σ δ α ν) (depth : Nat) (w : Walker δ) (m : σ)
    (done rest : List (Leaf δ)) :
    w.visitLeaves p depth m (done ++ rest) =
      (w.visitLeaves p depth m done).andThen fun marked m =>
        ({ w with marked } : Walker δ).visitLeaves p depth m rest := by
  have hrest := pervasive_forgets.leaves (forgets_type (p := p) w.options depth) rest
  rw [← run_each_leaf, each_append, run_bind w _ hrest, run_each_leaf]
  congr 1
  funext marked m
  exact run_each_leaf p depth { w with marked } m rest

/-- A walk along leaves takes no mark away. -/
theorem mem_marked_visitLeaves_of_mem {d : δ} (hd : d ∈ w.marked) (leaves : List (Leaf δ)) :
    d ∈ (w.visitLeaves p depth m leaves).marked := by
  have hsettles := pervasive_settles.leaves (settles_type (p := p) w.options depth) leaves
  rw [← run_each_leaf]
  exact (marked_run_iff hsettles w m).2 (.inl hd)

/-- A walk along leaves that succeeds leaves their types marked. -/
theorem mem_marked_visitLeaves {d : δ} {leaves : List (Leaf δ)} (hd : .descriptor d ∈ leaves)
    (h : (w.visitLeaves p depth m leaves).outcome = .ok ()) :
    d ∈ (w.visitLeaves p depth m leaves).marked := by
  obtain ⟨before, after, rfl⟩ := List.append_of_mem hd
  rw [visitLeaves_append] at h ⊢
  obtain ⟨hbefore, hrest⟩ := WalkReport.outcome_andThen_eq_ok_iff.1 h
  obtain ⟨hwalk, -⟩ := WalkReport.outcome_andThen_eq_ok_iff.1 hrest
  rw [WalkReport.marked_andThen_of_ok hbefore, visitLeaves, WalkReport.marked_andThen_of_ok hwalk]
  exact mem_marked_visitLeaves_of_mem (mem_marked_run_type hwalk) after

/-- At any point, to walk a reference is to visit its leaves from left to right, and run alone that
comes to the same as walking their types one after the other on the same walker, up to the first
type that fails or the first unknown node. Such a node stops the walk with what was there before.
Whatever stops it, what was marked before and what has been completed are marked at the end. -/
theorem reference_flattens (p : Provider σ δ α ν) (depth : Nat) (w : Walker δ) (m : σ)
    (root : TypeRef δ) :
    let visit := Walk.type p w.options depth
    let r := w.run (reference visit root) m
    let along := w.visitLeaves p depth m
    root.leaves.filterMap Leaf.descriptor? = root.targets ∧
    reference visit root = each (leaf visit) root.leaves ∧
    r = along root.leaves ∧
    (∀ done why rest, root.leaves = done ++ .unknown why :: rest →
      (along done).outcome = .ok () → r = { along done with outcome := .error (.unwalkable why) }) ∧
    (∀ done rest, root.leaves = done ++ rest → (along done).outcome = .ok () →
      ∀ d, .descriptor d ∈ done ∨ d ∈ (along done).marked → d ∈ r.marked) ∧
    ∀ d, d ∈ r.marked ↔ d ∈ w.marked ∨ .returned d ∈ r.moves := by
  intro visit r along
  have hr : r = along root.leaves := by
    simp only [r, along, visit, reference_eq_each, run_each_leaf]
  have hsplit (done rest : List (Leaf δ)) (hroot : root.leaves = done ++ rest) :
      r = (along done).andThen fun marked m =>
        ({ w with marked } : Walker δ).visitLeaves p depth m rest := by
    rw [hr, hroot]
    exact visitLeaves_append p depth w m done rest
  refine ⟨root.filterMap_leaves, reference_eq_each visit root, hr,
    fun done why rest hroot hdone => ?_, fun done rest hroot hdone d hd => ?_, fun d => ?_⟩
  · rw [hsplit done _ hroot, WalkReport.andThen, hdone]
    simp [visitLeaves, run_throw]
  · rw [hsplit done rest hroot, WalkReport.marked_andThen_of_ok hdone]
    apply mem_marked_visitLeaves_of_mem
    rcases hd with hd | hd
    · exact mem_marked_visitLeaves hd hdone
    · exact hd
  · have hsettles : Settles (reference visit root) := by
      rw [reference_eq_each]
      exact pervasive_settles.leaves (settles_type w.options depth) root.leaves
    exact marked_run_iff hsettles w m

section

open TypeReach.Graph TypeReach.Graph.Environment

/-- A reference with a node of no known kind in the middle. -/
def interrupted : TypeRef Descriptor :=
  .parameterized (.concrete (.named "A")) [
    .wildcard [.concrete (.named "X")] [.absent],
    .array (.parameterized (.concrete (.named "B")) [.unknown (.unsupported "'text'")]),
    .concrete (.named "Late")]

/-- `A` was marked before, the walk completes `X` and `B`, and `Late` is not visited. -/
theorem reference_flattens_interrupted :
    let p := finished.provider
    let w : Walker Descriptor := { marked := [.named "A"] }
    let r := w.run (reference (Walk.type p w.options finished.depth) interrupted) .empty
    let along := w.visitLeaves p finished.depth .empty
    let done := [.descriptor (.named "A"), .descriptor (.named "X"), .descriptor (.named "B")]
    let why := Unwalkable.unsupported "'text'"
    interrupted.leaves = done ++ .unknown why :: [.descriptor (.named "Late")] ∧
    (along done).outcome = .ok () ∧
    r = { along done with outcome := .error (.unwalkable why) } ∧
    (∀ d, .descriptor d ∈ done ∨ d ∈ (along done).marked → d ∈ r.marked) ∧
    r.marked = [.named "B", .named "X", .named "A"] := by
  intro p w r along done why
  have hleaves : interrupted.leaves = done ++ .unknown why :: [.descriptor (.named "Late")] := rfl
  have hdone : (along done).outcome = .ok () := by decide +kernel
  obtain ⟨-, -, -, hstop, hkeeps, -⟩ :=
    reference_flattens p finished.depth w .empty interrupted
  have hr : r = { along done with outcome := .error (.unwalkable why) } :=
    hstop done why _ hleaves hdone
  have hmarked : (along done).marked = [.named "B", .named "X", .named "A"] := by decide +kernel
  exact ⟨hleaves, hdone, hr, hkeeps done _ hleaves hdone, by rw [hr, hmarked]⟩

end

end Walker

end TypeReach
