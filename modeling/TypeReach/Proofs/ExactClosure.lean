import Mathlib.Data.Set.Card
import TypeReach.Proofs.GraphAnswers

/-!
# Exact closures

Loading a type succeeds if and only if every type that it reaches is sound, and marks exactly the
types that it reaches. Types that were marked before are not walked again; this is right if their
dependencies are marked as well.
-/

namespace TypeReach

namespace Answers

variable {δ α ν : Type} {answers : Answers δ α ν} {options : WalkOptions} {marked : List δ}
  {d e : δ}

theorem reachesOutside_of_route (h : Route (answers.course options) marked d e) :
    answers.ReachesOutside options marked d e :=
  ⟨h.1, Relation.ReflTransGen.mono (fun _ _ hl => ⟨depends_of_mem_visits hl.1, hl.2⟩) _ _ h.2⟩

theorem closed_of_course (h : ∀ d ∈ marked, (answers.course options d).stop = none ∧
    ∀ e ∈ (answers.course options d).visits, e ∈ marked) : answers.Closed options marked := by
  intro d hd e he
  obtain ⟨hstop, hv⟩ := h d hd
  exact hv e (mem_visits_of_depends hstop he)

variable [DecidableEq δ]

/-- More levels than there are reachable types are deep enough. -/
theorem deep_of_ncard_lt {n : Nat} (finite : {e | answers.Reaches options d e}.Finite)
    (h : {e | answers.Reaches options d e}.ncard < n) :
    Deep (answers.course options) n marked d := by
  refine ⟨finite.toFinset, fun x hr _ => ?_, ?_⟩
  · simpa using (reachesOutside_of_route hr).reaches
  · rw [Set.ncard_eq_toFinset_card _ finite] at h
    exact lt_of_le_of_lt (Finset.card_filter_le _ _) h

variable {starts kept path : List δ} {s t : Track δ}

/-- A completed type is sound, and what it depends on is marked or open. -/
theorem sound_of_stretch (h : Stretch (answers.course options) starts s t kept path)
    (hd : d ∈ kept) :
    answers.Sound options d ∧ ∀ e, answers.Depends options d e → e ∈ t.marked ∨ e ∈ path := by
  obtain ⟨hstop, hv⟩ := h.settled d hd
  exact ⟨sound_of_stop_eq_none hstop, fun e he => hv e (mem_visits_of_depends hstop he)⟩

/-- A stretch that leaves nothing open keeps a closed set of marks closed. -/
theorem Closed.stretch (closed : answers.Closed options s.marked)
    (h : Stretch (answers.course options) starts s t kept []) :
    answers.Closed options t.marked := by
  intro d hd e he
  rcases h.mem_marked_iff.1 hd with hd | hd
  · simpa using (sound_of_stretch h hd).2 e he
  · exact h.mem_of_mem (closed d hd e he)

/-- From closed marks, what is reached outside of them is sound after a success. -/
theorem sound_of_succeeds (closed : answers.Closed options s.marked)
    (h : Succeeds (answers.course options) [d] s t)
    (hr : answers.ReachesOutside options s.marked d e) : answers.Sound options e := by
  obtain ⟨⟨kept, hk⟩, hd⟩ := h
  have he : e ∈ t.marked := (closed.stretch hk).mem_of_reaches (hd d (by simp)) hr.reaches
  rcases hk.mem_marked_iff.1 he with he | he
  · exact (sound_of_stretch hk he).1
  · exact absurd he hr.notMem

/-- From closed marks, a success adds the marks of all that is reached. -/
theorem mem_marked_of_succeeds (closed : answers.Closed options s.marked)
    (h : Succeeds (answers.course options) [d] s t) :
    e ∈ t.marked ↔ e ∈ s.marked ∨ answers.Reaches options d e := by
  obtain ⟨⟨kept, hk⟩, hd⟩ := h
  constructor
  · intro he
    rcases hk.mem_marked_iff.1 he with he | he
    · obtain ⟨x, hx, hr⟩ := hk.reached e (.inl he)
      cases List.mem_singleton.1 hx
      exact .inr (reachesOutside_of_route hr).reaches
    · exact .inl he
  · rintro (he | he)
    · exact hk.mem_of_mem he
    · exact (closed.stretch hk).mem_of_reaches (hd d (by simp)) he

/-- A failure that is not for want of depth comes from a type that is reached and not sound. -/
theorem exists_not_sound_of_fails {n : Nat} (named : answers.Named)
    (deep : Deep (answers.course options) n s.marked d)
    (h : Fails (answers.course options) n [d] s t) :
    ∃ e, answers.ReachesOutside options s.marked d e ∧ ¬ answers.Sound options e := by
  obtain ⟨_, _, _, hc⟩ := h
  obtain ⟨x, hstop, ⟨y, hy, hr⟩, -⟩ := hc (by simpa using deep)
  cases List.mem_singleton.1 hy
  exact ⟨x, reachesOutside_of_route hr, not_sound_of_stop_ne_none named hstop⟩

end Answers

namespace Walker

variable {σ δ α ν : Type} [DecidableEq δ] {p : Provider σ δ α ν} {inOrder : σ → Prop} {m : σ}

/-- From closed marks and deep enough, loading succeeds if and only if all that is reached outside
of the marks is sound, and then marks what is reached. -/
theorem load_ok_iff_of_deep (steady : p.Steady inOrder) (hm : inOrder m)
    (named : (p.answers m).Named) (w : Walker δ)
    (closed : (p.answers m).Closed w.options w.marked) (root : δ) (depth : Nat)
    (deep : Deep ((p.answers m).course w.options) depth w.marked root) :
    let r := w.load p depth m (.concrete root)
    (r.outcome = .ok () ↔ ∀ d, (p.answers m).ReachesOutside w.options w.marked root d →
      (p.answers m).Sound w.options d) ∧
    (r.outcome = .ok () →
      ∀ d, d ∈ r.marked ↔ d ∈ w.marked ∨ (p.answers m).Reaches w.options root d) := by
  intro r
  rcases load_ends steady hm w depth root with ⟨ho, hs⟩ | ⟨fault, ho, hf⟩
  · refine ⟨⟨fun _ d hd => ?_, fun _ => ho⟩, fun _ d => ?_⟩
    · exact Answers.sound_of_succeeds (s := w.start) closed hs hd
    · exact Answers.mem_marked_of_succeeds (s := w.start) closed hs
  · have hne : r.outcome ≠ .ok () := fun h => by cases ho.symm.trans h
    refine ⟨⟨fun h => absurd h hne, fun hall => ?_⟩, fun h => absurd h hne⟩
    obtain ⟨e, hr, hunsound⟩ :=
      Answers.exists_not_sound_of_fails (s := w.start) named deep hf
    exact absurd (hall e hr) hunsound

/-- From closed marks, and with more levels than there are types to reach, loading succeeds if and
only if all that is reached outside of the marks is sound; then the types reached are what is marked
in addition. -/
theorem load_ok_iff (steady : p.Steady inOrder) (hm : inOrder m) (named : (p.answers m).Named)
    (w : Walker δ) (closed : (p.answers m).Closed w.options w.marked) (root : δ)
    (finite : {d | (p.answers m).Reaches w.options root d}.Finite) (depth : Nat)
    (deep : {d | (p.answers m).Reaches w.options root d}.ncard < depth) :
    let r := w.load p depth m (.concrete root)
    (r.outcome = .ok () ↔ ∀ d, (p.answers m).ReachesOutside w.options w.marked root d →
      (p.answers m).Sound w.options d) ∧
    (r.outcome = .ok () →
      ∀ d, d ∈ r.marked ↔ d ∈ w.marked ∨ (p.answers m).Reaches w.options root d) :=
  load_ok_iff_of_deep steady hm named w closed root depth (Answers.deep_of_ncard_lt finite deep)

/-- A new walker loads a type of an environment if and only if all that the type reaches is
sound. -/
theorem load_new_ok_iff (e : Graph.Environment) (options : WalkOptions) {depth : Nat}
    (hd : e.depth ≤ depth) {memory : Graph.Parses} (hm : Graph.Faithful memory)
    (root : Graph.Descriptor) :
    (({ options } : Walker Graph.Descriptor).load e.provider depth memory
        (.concrete root)).outcome = .ok () ↔
      ∀ d, e.answers.Reaches options root d → e.answers.Sound options d := by
  have ha := e.gives_provider.answers_eq hm
  have h := (load_ok_iff_of_deep e.gives_provider.steady hm (ha ▸ e.named_answers) { options }
    (by simp [Answers.Closed]) root depth (ha ▸ (e.deep options [] root).of_le hd)).1
  simp only [ha, Answers.reachesOutside_nil] at h
  exact h

section

open TypeReach.Graph TypeReach.Graph.Environment

/-- Of `A` and `B`, which depend on each other, and `X`, which is marked before. -/
theorem load_ok_iff_finished :
    let p := finished.provider
    let w : Walker Descriptor := { marked := [.named "X"] }
    let root : Descriptor := .named "A"
    (p.answers .empty).Closed w.options w.marked ∧
      {d | (p.answers .empty).Reaches w.options root d}.ncard < finished.depth ∧
      ((w.load p finished.depth .empty (.concrete root)).outcome = .ok () ↔
        ∀ d, (p.answers .empty).ReachesOutside w.options w.marked root d →
          (p.answers .empty).Sound w.options d) := by
  intro p w root
  have ha : p.answers .empty = finished.answers := finished.gives_provider.answers_eq faithful_empty
  have closed : (p.answers .empty).Closed w.options w.marked := by
    rw [ha]
    exact Answers.closed_of_course (by decide +kernel)
  have all : (p.answers .empty).Closed w.options [.named "A", .named "B", .named "X"] := by
    rw [ha]
    exact Answers.closed_of_course (by decide +kernel)
  have sub : {d | (p.answers .empty).Reaches w.options root d} ⊆
      ([.named "A", .named "B", .named "X"] : List Descriptor).toFinset := fun d hd => by
    simpa using all.mem_of_reaches (by simp [root]) hd
  have finite := (Finset.finite_toSet _).subset sub
  have deep : {d | (p.answers .empty).Reaches w.options root d}.ncard < finished.depth := by
    have h := Set.ncard_le_ncard sub (Finset.finite_toSet _)
    rw [Set.ncard_coe_finset] at h
    exact lt_of_le_of_lt h (by decide +kernel)
  have named : (p.answers .empty).Named := ha ▸ finished.named_answers
  exact ⟨closed, deep, (load_ok_iff finished.gives_provider.steady faithful_empty named w closed
    root finite finished.depth deep).1⟩

end

end Walker

end TypeReach
