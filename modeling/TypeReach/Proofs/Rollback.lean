import TypeReach.Proofs.GraphAnswers

/-!
# What a failed walk leaves

When a walk fails, wherever the fault comes from, the marks left are those that were there before
and those of the types that the walk completed. The types that were open lose their marks, and a
completed type may depend on them.
-/

namespace TypeReach

namespace Stretch

variable {δ α ν : Type} [DecidableEq δ] {answers : Answers δ α ν} {options : WalkOptions}
  {starts kept path : List δ} {d e : δ} {t : Track δ} {w : Walker δ}

theorem entered_returned_iff (h : Stretch (answers.course options) starts w.start t kept path) :
    (.entered d ∈ t.moves ∧ .returned d ∈ t.moves) ↔ d ∈ kept := by
  rw [h.entered, h.returned]
  simp only [Walker.start, List.not_mem_nil, or_false]
  tauto

end Stretch

namespace Walker

variable {σ δ α ν : Type} [DecidableEq δ] {p : Provider σ δ α ν} {inOrder : σ → Prop} {m : σ}

/-- A walk that fails keeps the marks that were there and marks the types that it entered and
returned from; it leaves no type marked that is open; and all that a type so marked depends on is
marked or open. -/
theorem load_error_marked (steady : p.Steady inOrder) (hm : inOrder m) (w : Walker δ) (depth : Nat)
    (root : TypeRef δ) (fault : Fault) (h : (w.load p depth m root).outcome = .error fault) :
    let r := w.load p depth m root
    (∀ d, d ∈ r.marked ↔ d ∈ w.marked ∨ (.entered d ∈ r.moves ∧ .returned d ∈ r.moves)) ∧
    (∀ d ∈ openAfter r.moves, d ∉ r.marked) ∧
    ∀ d, (.entered d ∈ r.moves ∧ .returned d ∈ r.moves) →
      ∀ e, (p.answers m).Depends w.options d e → e ∈ r.marked ∨ e ∈ openAfter r.moves := by
  intro r
  obtain ⟨kept, path, hk⟩ := load_stretch steady hm w depth root h
  have kept_iff (d : δ) : (.entered d ∈ r.moves ∧ .returned d ∈ r.moves) ↔ d ∈ kept := by
    simpa using hk.entered_returned_iff (d := d)
  have hopen : openAfter r.moves = path := openAfter_eq_of_stretch hk
  refine ⟨fun d => ?_, fun d hd => ?_, fun d hd e he => ?_⟩
  · rw [kept_iff, or_comm]
    exact hk.mem_marked_iff
  · exact hk.rolledBack d (hopen ▸ hd)
  · obtain ⟨hstop, hv⟩ := hk.settled d ((kept_iff d).1 hd)
    rw [hopen]
    exact hv e (Answers.mem_visits_of_depends hstop he)

section

open TypeReach.Graph TypeReach.Graph.Environment

/-- The walk of `A` completes `B`, which depends on `A`, and then fails at `X`. -/
theorem load_error_marked_unfinished :
    let r := ({} : Walker Descriptor).load unfinished.provider unfinished.depth .empty
      (.concrete (.named "A"))
    r.outcome = .error (.unresolved (some "X")
      (some (.linkage "No definition found for type X" (some "X")))) ∧
    (∀ d, d ∈ r.marked ↔ d ∈ [] ∨ (.entered d ∈ r.moves ∧ .returned d ∈ r.moves)) ∧
    (∀ d ∈ openAfter r.moves, d ∉ r.marked) ∧
    r.marked = [.named "B"] ∧ openAfter r.moves = [.named "X", .named "A"] := by
  intro r
  have h : r.outcome = .error (.unresolved (some "X")
      (some (.linkage "No definition found for type X" (some "X")))) := by decide +kernel
  obtain ⟨hmarked, hopen, -⟩ := load_error_marked unfinished.gives_provider.steady faithful_empty {}
    unfinished.depth (.concrete (.named "A")) _ h
  exact ⟨h, hmarked, hopen, by decide +kernel, by decide +kernel⟩

end

end Walker

end TypeReach
