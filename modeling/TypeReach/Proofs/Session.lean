import TypeReach.Proofs.GraphAnswers

/-!
# Sessions

A session is one walker in use. It loads types one after the other, and its environment may be
replaced in between; the marks and what the provider remembers are kept.
-/

namespace TypeReach.Graph

/-- A walker with the environment that it walks, what its provider remembers, and the types that
failed walks have left open so far, which have lost their marks. -/
structure Session where
  environment : Environment
  walker : Walker Descriptor
  memory : Parses := .empty
  rolledBack : List Descriptor := []

namespace Session

variable {β : Type} (s : Session)

/-- What comes of loading along a reference now. -/
def load (depth : Nat) (root : TypeRef Descriptor) : WalkReport Parses Descriptor Unit :=
  s.walker.load s.environment.provider depth s.memory root

/-- The session after a walk. -/
def after (r : WalkReport Parses Descriptor β) : Session where
  environment := s.environment
  walker := { options := s.walker.options, marked := r.marked }
  memory := r.memory
  rolledBack := openAfter r.moves ++ s.rolledBack

variable {s}

/-- What comes of loading is what the survey along the answers of the environment comes to. -/
theorem load_cases (hm : Faithful s.memory) (depth : Nat) (root : TypeRef Descriptor) :
    let r := s.load depth root
    let t : Track Descriptor := { marked := r.marked, moves := r.moves.reverse }
    ((r.outcome = .ok () ∧ s.walker.survey s.environment.answers depth root = .ok () t) ∨
      ∃ fault, r.outcome = .error fault ∧
        s.walker.survey s.environment.answers depth root = .error fault t) ∧
      Faithful r.memory := by
  have h := Walker.load_cases s.environment.gives_provider.steady hm s.walker depth root
  rw [s.environment.gives_provider.answers_eq hm] at h
  exact h

end Session

end TypeReach.Graph
