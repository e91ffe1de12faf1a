import TypeReach.Proofs.ExactClosure
import TypeReach.Proofs.Session

/-!
# Reused walkers

A walker that is used again trusts its marks. A type that was completed while another one was open
keeps its mark when the other one is rolled back, although it may depend on it; so later walks may
succeed where a new walker fails. They do so exactly when they come upon a type that was rolled
back.
-/

namespace TypeReach.Graph

/-- A request to a walker: to load a type, or to check it. -/
inductive Request where
  | load (root : Descriptor)
  | check (root : Descriptor)

/-- The type that a request is about. -/
def Request.root : Request → Descriptor
  | load root => root
  | check root => root

namespace Session

/-- The session of a new walker. -/
def new (e : Environment) (options : WalkOptions) : Session :=
  { environment := e, walker := { options } }

/-- What comes of checking a type now. -/
def check (s : Session) (depth : Nat) (root : TypeRef Descriptor) :
    WalkReport Parses Descriptor (Option Fault) :=
  s.walker.check s.environment.provider depth s.memory root

/-- The session after a request. -/
def serve (depth : Nat) (s : Session) : Request → Session
  | .load root => s.after (s.load depth (.concrete root))
  | .check root => s.after (s.check depth (.concrete root))

/-- A request would succeed now. -/
def Succeeds (depth : Nat) (s : Session) : Request → Prop
  | .load root => (s.load depth (.concrete root)).outcome = .ok ()
  | .check root => (s.check depth (.concrete root)).outcome = .ok none

instance (depth : Nat) (s : Session) : DecidablePred (s.Succeeds depth)
  | .load root => inferInstanceAs (Decidable ((s.load depth (.concrete root)).outcome = .ok ()))
  | .check root => inferInstanceAs (Decidable ((s.check depth (.concrete root)).outcome = .ok none))

theorem serve_eq (depth : Nat) (s : Session) (request : Request) :
    s.serve depth request = s.after (s.load depth (.concrete request.root)) := by
  cases request <;> rfl

/-- Checking succeeds if loading does. -/
theorem succeeds_iff (depth : Nat) (s : Session) (request : Request) :
    s.Succeeds depth request ↔ (s.load depth (.concrete request.root)).outcome = .ok () := by
  cases request with
  | load root => exact Iff.rfl
  | check root => exact Walker.failure_eq_ok_none

/-- A marked type is sound, and what it depends on is marked or was rolled back; a type that was
rolled back reaches one that is not sound. -/
structure Tidy (e : Environment) (options : WalkOptions) (s : Session) : Prop where
  environment_eq : s.environment = e
  options_eq : s.walker.options = options
  faithful : Faithful s.memory
  settled : ∀ d ∈ s.walker.marked, e.answers.Sound options d ∧
    ∀ x, e.answers.Depends options d x → x ∈ s.walker.marked ∨ x ∈ s.rolledBack
  unresolved : ∀ d ∈ s.rolledBack,
    ∃ x, e.answers.Reaches options d x ∧ ¬ e.answers.Sound options x

namespace Tidy

variable {e : Environment} {options : WalkOptions} {s : Session} {depth : Nat}

theorem new (e : Environment) (options : WalkOptions) : Tidy e options (Session.new e options) where
  environment_eq := rfl
  options_eq := rfl
  faithful := faithful_empty
  settled := by simp [Session.new]
  unresolved := by simp [Session.new]

/-- A stretch whose path reaches a type that is not sound keeps a session tidy. -/
theorem after (h : Tidy e options s) {r : WalkReport Parses Descriptor Unit}
    (hm : Faithful r.memory) {starts kept path : List Descriptor}
    (hk : Stretch (e.answers.course options) starts s.walker.start
      { marked := r.marked, moves := r.moves.reverse } kept path)
    (hp : ∀ d ∈ path, ∃ x, e.answers.Reaches options d x ∧ ¬ e.answers.Sound options x) :
    Tidy e options (s.after r) := by
  have hopen : openAfter r.moves = path := Walker.openAfter_eq_of_stretch hk
  refine ⟨h.environment_eq, h.options_eq, hm, fun d hd => ?_, fun d hd => ?_⟩
  · simp only [Session.after, hopen, List.mem_append]
    rcases hk.mem_marked_iff.1 hd with hd | hd
    · obtain ⟨hsound, hv⟩ := Answers.sound_of_stretch hk hd
      refine ⟨hsound, fun x hx => ?_⟩
      rcases hv x hx with hx | hx
      · exact .inl hx
      · exact .inr (.inl hx)
    · obtain ⟨hsound, hv⟩ := h.settled d hd
      refine ⟨hsound, fun x hx => ?_⟩
      rcases hv x hx with hx | hx
      · exact .inl (hk.mem_of_mem hx)
      · exact .inr (.inr hx)
  · simp only [Session.after, hopen, List.mem_append] at hd
    rcases hd with hd | hd
    · exact hp d hd
    · exact h.unresolved d hd

/-- A load keeps a session tidy; if it succeeds, the root is marked and nothing is rolled back. -/
theorem load (h : Tidy e options s) (hd : e.depth ≤ depth) (root : Descriptor) :
    let r := s.load depth (.concrete root)
    Tidy e options (s.after r) ∧
      (r.outcome = .ok () → root ∈ r.marked ∧ openAfter r.moves = []) := by
  intro r
  obtain ⟨rfl, rfl, faithful, -, -⟩ := id h
  have hm := (load_cases faithful depth (.concrete root)).2
  have hends := Walker.load_ends s.environment.gives_provider.steady faithful s.walker depth root
  rw [s.environment.gives_provider.answers_eq faithful] at hends
  rcases hends with ⟨-, ⟨kept, hk⟩, hroot⟩ | ⟨fault, ho, kept, path, hk, hc⟩
  · exact ⟨h.after hm hk (by simp),
      fun _ => ⟨hroot root (by simp), Walker.openAfter_eq_of_stretch hk⟩⟩
  · refine ⟨h.after hm hk ?_, fun ho' => by cases ho.symm.trans ho'⟩
    obtain ⟨x, hx, -, hpath⟩ := hc (by simpa using (s.environment.deep _ _ root).of_le hd)
    intro d hd
    refine ⟨x, (Answers.reachesOutside_of_route (hpath d hd)).reaches, ?_⟩
    exact Answers.not_sound_of_stop_ne_none s.environment.named_answers hx

theorem serve (h : Tidy e options s) (hd : e.depth ≤ depth) (request : Request) :
    Tidy e options (s.serve depth request) := by
  rw [serve_eq]
  exact (h.load hd request.root).1

theorem serveAll (h : Tidy e options s) (hd : e.depth ≤ depth) (requests : List Request) :
    Tidy e options (requests.foldl (Session.serve depth) s) := by
  induction requests generalizing s with
  | nil => exact h
  | cons request requests ih => exact ih (h.serve hd request)

/-- What a marked type reaches is marked, unless a type that was rolled back is in between. -/
theorem mem_marked_of_reaches (h : Tidy e options s) {root d : Descriptor}
    (hroot : root ∈ s.walker.marked)
    (hclean : ∀ x, e.answers.Reaches options root x → x ∉ s.rolledBack)
    (hr : e.answers.Reaches options root d) : d ∈ s.walker.marked := by
  induction hr with
  | refl => exact hroot
  | tail hr hx ih =>
    rcases (h.settled _ ih).2 _ hx with hd | hd
    · exact hd
    · exact absurd hd (hclean _ (hr.tail hx))

end Tidy

theorem succeeds_new_iff (e : Environment) (options : WalkOptions) {depth : Nat}
    (hd : e.depth ≤ depth) (request : Request) :
    (new e options).Succeeds depth request ↔
      ∀ d, e.answers.Reaches options request.root d → e.answers.Sound options d := by
  rw [succeeds_iff]
  exact Walker.load_new_ok_iff e options hd faithful_empty request.root

/-- After any requests to one walker: a request that succeeds would succeed with a new walker if and
only if its type reaches none that was rolled back, and all marked types could be loaded by a new
walker if and only if none of them depends directly on a type that was rolled back. -/
theorem success_iff_new (e : Environment) (options : WalkOptions) (depth : Nat)
    (hd : e.depth ≤ depth) (requests : List Request) :
    let s := requests.foldl (serve depth) (new e options)
    (∀ request, s.Succeeds depth request →
      ((new e options).Succeeds depth request ↔
        ∀ d, e.answers.Reaches options request.root d → d ∉ s.rolledBack)) ∧
    ((∀ d ∈ s.walker.marked, (new e options).Succeeds depth (.load d)) ↔
      ∀ d ∈ s.walker.marked, ∀ x, e.answers.Depends options d x → x ∉ s.rolledBack) := by
  intro s
  have tidy : Tidy e options s := (Tidy.new e options).serveAll hd requests
  simp only [succeeds_new_iff e options hd]
  refine ⟨fun request hs => ⟨fun hsound d hr hback => ?_, fun hclean d hr => ?_⟩,
    fun hsound d hm x hx hback => ?_, fun hclean d hm x hr => ?_⟩
  · obtain ⟨x, hx, hunsound⟩ := tidy.unresolved d hback
    exact hunsound (hsound x (hr.trans hx))
  · obtain ⟨tidy', hroot⟩ := tidy.load hd request.root
    obtain ⟨hroot, hopen⟩ := hroot ((succeeds_iff depth s request).1 hs)
    refine (tidy'.settled d (tidy'.mem_marked_of_reaches hroot (fun x hx => ?_) hr)).1
    simpa [Session.after, hopen] using hclean x hx
  · obtain ⟨y, hy, hunsound⟩ := tidy.unresolved x hback
    exact hunsound (hsound d hm y (.head hx hy))
  · have hall : x ∈ s.walker.marked := by
      induction hr with
      | refl => exact hm
      | tail _ hx ih =>
        rcases (tidy.settled _ ih).2 _ hx with h | h
        · exact h
        · exact absurd h (hclean _ ih _ hx)
    exact (tidy.settled x hall).1

section

open Environment

/-- `B`, which depends on `A`, was completed before `A` was rolled back: the walker loads it, and a
new walker does not. -/
theorem success_not_new_unfinished :
    let s := [Request.load (.named "A")].foldl (serve 4) (new unfinished {})
    .named "B" ∈ s.walker.marked ∧ s.Succeeds 4 (.load (.named "B")) ∧
      ¬ (new unfinished {}).Succeeds 4 (.load (.named "B")) := by
  decide +kernel

/-- So `B` reaches a type that was rolled back. -/
theorem success_iff_new_unfinished :
    let s := [Request.load (.named "A")].foldl (serve 4) (new unfinished {})
    unfinished.depth ≤ 4 ∧ s.Succeeds 4 (.load (.named "B")) ∧
      ((new unfinished {}).Succeeds 4 (.load (.named "B")) ↔
        ∀ d, unfinished.answers.Reaches {} (.named "B") d → d ∉ s.rolledBack) := by
  intro s
  have hd : unfinished.depth ≤ 4 := by decide +kernel
  have hs : s.Succeeds 4 (.load (.named "B")) := by decide +kernel
  exact ⟨hd, hs, (success_iff_new unfinished {} 4 hd [.load (.named "A")]).1 _ hs⟩

end

end Session

end TypeReach.Graph
