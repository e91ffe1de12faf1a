import TypeReach.Proofs.Growth
import TypeReach.Proofs.Session

/-!
# Retries

A walker that failed at a type that was not defined may load the same root again once it is. It then
comes to what a new walker comes to, as often as this is repeated.
-/

namespace TypeReach.Graph.Session

/-- The session after a load and after more definitions. -/
def retry (depth : Nat) (root : TypeRef Descriptor) (s : Session) (new : List TypeDefinition) :
    Session :=
  { s.after (s.load depth root) with environment := new.foldl Environment.define s.environment }

variable {depth : Nat} {root : TypeRef Descriptor} {options : WalkOptions} {s : Session}

/-- Loads whose surveys are alike have one outcome and leave the same marks. -/
theorem load_eq_of_alike {s' : Session} (hm : Faithful s.memory) (hm' : Faithful s'.memory)
    (h : Alike (s.walker.survey s.environment.answers depth root)
      (s'.walker.survey s'.environment.answers depth root)) :
    (s.load depth root).outcome = (s'.load depth root).outcome ∧
      ∀ d, d ∈ (s.load depth root).marked ↔ d ∈ (s'.load depth root).marked := by
  rcases (load_cases hm depth root).1 with ⟨ho, hs⟩ | ⟨fault, ho, hs⟩
  · rcases (load_cases hm' depth root).1 with ⟨ho', hs'⟩ | ⟨fault', ho', hs'⟩
    · rw [hs, hs'] at h
      cases h with
      | ok h => exact ⟨ho.trans ho'.symm, h⟩
    · rw [hs, hs'] at h
      cases h
  · rcases (load_cases hm' depth root).1 with ⟨ho', hs'⟩ | ⟨fault', ho', hs'⟩
    · rw [hs, hs'] at h
      cases h
    · rw [hs, hs'] at h
      cases h with
      | error h => exact ⟨ho.trans ho'.symm, h⟩

/-- Loading now comes to what a new walker comes to. -/
structure LikeNew (depth : Nat) (root : TypeRef Descriptor) (options : WalkOptions) (s : Session) :
    Prop where
  options_eq : s.walker.options = options
  faithful : Faithful s.memory
  alike : Alike (({ options } : Walker Descriptor).survey s.environment.answers depth root)
    (s.walker.survey s.environment.answers depth root)

theorem likeNew_start (e : Environment) (options : WalkOptions) {memory : Parses}
    (hm : Faithful memory) :
    LikeNew depth root options { environment := e, walker := { options }, memory } where
  options_eq := rfl
  faithful := hm
  alike := alike_run (respects_survey depth) root.course (.refl _)

/-- After a retry in an environment that has grown, loading is like new again. -/
theorem LikeNew.retry (h : LikeNew depth root options s) {new : List TypeDefinition}
    (allNew : s.environment.AllNew new) : LikeNew depth root options (s.retry depth root new) := by
  obtain ⟨rfl, faithful, alike⟩ := h
  obtain ⟨hcases, hm⟩ := load_cases faithful depth root
  have left : SameMarks (final (s.walker.survey s.environment.answers depth root))
      (s.retry depth root new).walker.start := by
    rcases hcases with ⟨-, ho⟩ | ⟨fault, -, ho⟩
    · rw [ho]
      exact .refl _
    · rw [ho]
      exact .refl _
  have grows := allNew.grows.answers.course s.walker.options
  exact {
    options_eq := rfl
    faithful := hm
    alike := alike_run_of_repeats (extends_survey grows depth) (repeats_survey grows depth)
      (.refl root.course) fun d => (alike.final d).trans (left d) }

theorem LikeNew.retries {rounds : List (List TypeDefinition)} (h : LikeNew depth root options s)
    (allNew : s.environment.AllNew rounds.flatten) :
    LikeNew depth root options (rounds.foldl (Session.retry depth root) s) := by
  induction rounds generalizing s with
  | nil => exact h
  | cons new rounds ih =>
    obtain ⟨hnew, hrest⟩ := Environment.allNew_append.1 allNew
    exact ih (h.retry hnew) hrest

/-- However often a root is loaded by one walker while names are defined that were not defined, the
next load has the outcome and leaves the marks of a load by a new walker. -/
theorem load_after_retries (e : Environment) (options : WalkOptions) (depth : Nat)
    (root : TypeRef Descriptor) (rounds : List (List TypeDefinition))
    (allNew : e.AllNew rounds.flatten) (memory : Parses) (hm : Faithful memory) :
    let s := rounds.foldl (Session.retry depth root) { environment := e, walker := { options } }
    let again := s.load depth root
    let fresh := ({ options } : Walker Descriptor).load s.environment.provider depth memory root
    again.outcome = fresh.outcome ∧ ∀ d, d ∈ again.marked ↔ d ∈ fresh.marked := by
  intro s again fresh
  have likeNew : LikeNew depth root options s :=
    (likeNew_start e options faithful_empty).retries allNew
  obtain ⟨houtcome, hmarked⟩ := load_eq_of_alike
    (s := { environment := s.environment, walker := { options }, memory }) hm likeNew.faithful
    likeNew.alike
  exact ⟨houtcome.symm, fun d => (hmarked d).symm⟩

section

open Environment

/-- `A` fails at `X`, then at `Y`, on which `X` depends, and then at nothing. -/
theorem load_after_retries_unfinished :
    let rounds : List (List TypeDefinition) :=
      [[{ name := "X", fields := [{ name := "y", type := some "Y" }] }], [{ name := "Y" }]]
    let root : TypeRef Descriptor := .concrete (.named "A")
    let s := rounds.foldl (Session.retry 6 root) { environment := unfinished, walker := {} }
    let fresh := ({} : Walker Descriptor).load s.environment.provider 6 .empty root
    unfinished.AllNew rounds.flatten ∧ (s.load 6 root).outcome = fresh.outcome ∧
      (∀ d, d ∈ (s.load 6 root).marked ↔ d ∈ fresh.marked) ∧ fresh.outcome = .ok () := by
  intro rounds root s fresh
  have allNew : unfinished.AllNew rounds.flatten := ⟨rfl, rfl, trivial⟩
  obtain ⟨houtcome, hmarked⟩ :=
    load_after_retries unfinished {} 6 root rounds allNew .empty faithful_empty
  exact ⟨allNew, houtcome, hmarked, by decide +kernel⟩

end

end TypeReach.Graph.Session
