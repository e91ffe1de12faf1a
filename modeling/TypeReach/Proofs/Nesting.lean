import Mathlib.Data.List.Chain
import TypeReach.Proofs.Depth

/-!
# Nesting of open types

At every moment of a walk the open types are distinct and each was opened by a visit from the next
outer one. So all but the innermost have something to visit, which in an environment only defined
types have, and their number bounds how deep a walk nests.
-/

namespace TypeReach

variable {δ : Type} [DecidableEq δ]

/-- The types that are open at a moment of a walk, innermost first: behind some of its moves, or
while those that a fault found open are left one after the other. -/
def OpenAt (moves : List (Move δ)) (path : List δ) : Prop :=
  (∃ before, before <+: moves ∧ openAfter before = path) ∨ path <:+ openAfter moves

section

omit [DecidableEq δ]

/-- Types that can be open at once below a root, innermost first. -/
structure Nested (course : δ → Course δ) (root : δ) (path : List δ) : Prop where
  distinct : path.Nodup
  chain : path.IsChain fun inner outer => inner ∈ (course outer).visits
  rooted : ∀ d ∈ path.getLast?, d = root

namespace Nested

variable {course : δ → Course δ} {root d : δ} {path path' : List δ}

theorem nil (course : δ → Course δ) (root : δ) : Nested course root [] where
  distinct := .nil
  chain := .nil
  rooted := by simp

theorem singleton (course : δ → Course δ) (root : δ) : Nested course root [root] where
  distinct := List.nodup_singleton root
  chain := .singleton root
  rooted := by simp

/-- One more type can be opened from the innermost one. -/
theorem cons (h : Nested course root (d :: path)) {y : δ} (hy : y ∉ d :: path)
    (hv : y ∈ (course d).visits) : Nested course root (y :: d :: path) where
  distinct := List.nodup_cons.2 ⟨hy, h.distinct⟩
  chain := List.isChain_cons.2 ⟨by simpa using hv, h.chain⟩
  rooted := by simpa using h.rooted

theorem suffix (h : Nested course root path) (hs : path' <:+ path) : Nested course root path' where
  distinct := h.distinct.sublist hs.sublist
  chain := h.chain.suffix hs
  rooted x hx := by
    obtain ⟨front, rfl⟩ := hs
    refine h.rooted x ?_
    rw [List.getLast?_append, Option.mem_def.1 hx]
    rfl

/-- All but the innermost type have visits. -/
theorem visits_ne_nil (h : Nested course root path) : ∀ x ∈ path.tail, (course x).visits ≠ [] := by
  induction path with
  | nil => simp
  | cons d path ih =>
    have hp : Nested course root path := h.suffix (List.suffix_cons d path)
    cases path with
    | nil => simp
    | cons o outer =>
      intro x hx
      rcases List.mem_cons.1 hx with rfl | hx
      · exact List.ne_nil_of_mem ((List.isChain_cons.1 h.chain).1 x (by simp))
      · exact ih hp x hx

/-- All but the root are visited from some type. -/
theorem eq_root_or_visited (h : Nested course root path) :
    ∀ x ∈ path, x = root ∨ ∃ o, x ∈ (course o).visits := by
  induction path with
  | nil => simp
  | cons d path ih =>
    intro x hx
    rcases List.mem_cons.1 hx with rfl | hx
    · cases path with
      | nil => exact .inl (h.rooted x (by simp))
      | cons o outer => exact .inr ⟨o, (List.isChain_cons.1 h.chain).1 o (by simp)⟩
    · exact ih (h.suffix (List.suffix_cons d path)) x hx

end Nested

end

/-- From `s` to `t` a tour only adds moves, and what is open after any of them has a property. -/
structure Throughout (P : List δ → Prop) (s t : Track δ) : Prop where
  later : s.moves <:+ t.moves
  holds : ∀ moves, s.moves <:+ moves → moves <:+ t.moves → P (openAfter moves.reverse)

namespace Throughout

variable {P : List δ → Prop} {s t u : Track δ} {d : δ}

theorem refl (h : P s.opened) : Throughout P s s where
  later := List.suffix_rfl
  holds moves hs ht := by
    rw [ht.eq_of_length_le hs.length_le]
    exact h

theorem trans (h : Throughout P s t) (h' : Throughout P t u) : Throughout P s u where
  later := h.later.trans h'.later
  holds moves hs hu := by
    rcases List.suffix_or_suffix_of_suffix hu h'.later with ht | ht
    · exact h.holds moves hs ht
    · exact h'.holds moves ht hu

/-- One more move changes what is open once. -/
theorem move (hs : P s.opened) (ht : P t.opened) {move : Move δ} (h : t.moves = move :: s.moves) :
    Throughout P s t where
  later := h ▸ List.suffix_cons move s.moves
  holds moves hsm hmt := by
    rw [h, List.suffix_cons_iff] at hmt
    rcases hmt with rfl | hm
    · rw [← h]
      exact ht
    · rw [hm.eq_of_length_le hsm.length_le]
      exact hs

theorem enter (hs : P s.opened) (hd : P (d :: s.opened)) : Throughout P s (s.enter d) :=
  move hs (by rwa [Track.opened_enter]) rfl

theorem leave (hs : P s.opened) (hd : P (s.opened.erase d)) : Throughout P s (s.leave d) :=
  move hs (by rwa [Track.opened_leave]) rfl

theorem rollBack (h : Throughout P s t) : Throughout P s (t.rollBack d) where
  later := h.later
  holds := h.holds

end Throughout

section

variable {course : δ → Course δ} {leaving : δ → Fault → Fault} {root d : δ} {n : Nat} {s : Track δ}

/-- Where a survey may go on to visit a type: what is open is marked and nested, also with the type
on top unless it is marked. -/
structure Ready (course : δ → Course δ) (root : δ) (s : Track δ) (d : δ) : Prop where
  marked : ∀ x ∈ s.opened, x ∈ s.marked
  nested : Nested course root s.opened
  next : d ∉ s.marked → Nested course root (d :: s.opened)

/-- Where a tour has come to. -/
def terminus : EStateM.Result Fault (Track δ) Unit → Track δ
  | .ok _ t => t
  | .error _ t => t

/-- A visit that succeeds leaves open what was open before, and adds marks only. -/
theorem Ready.after {t : Track δ} {y : δ} (h : Ready course root s y)
    (hs : Succeeds course [d] s t) : Ready course root t y := by
  obtain ⟨⟨kept, hk⟩, -⟩ := hs
  have hopened : t.opened = s.opened := hk.opened
  refine ⟨fun x hx => hk.mem_of_mem (h.marked x (hopened ▸ hx)), hopened ▸ h.nested, fun hy => ?_⟩
  rw [hopened]
  exact h.next fun hys => hy (hk.mem_of_mem hys)

omit [DecidableEq δ] in
theorem terminus_run (visit : δ → Tour δ) (c : Course δ) (s : Track δ) :
    terminus (c.run visit s) = terminus (visitAll visit c.visits s) := by
  rw [Course.run]
  cases visitAll visit c.visits s with
  | error fault t => rfl
  | ok _ t =>
    rw [onward_ok]
    cases c.stop <;> rfl

/-- A course that succeeds leaves open what was open before. -/
theorem opened_of_run_eq_ok {visit : δ → Tour δ} (hends : ∀ d s, Ends course n [d] s (visit d s))
    {c : Course δ} {u : Unit} {t : Track δ} (h : c.run visit s = .ok u t) :
    t.opened = s.opened := by
  have hc := ends_visitAll hends c.visits s
  rw [Course.run] at h
  cases hr : visitAll visit c.visits s with
  | error fault t' =>
    rw [hr] at h
    cases h
  | ok _ t' =>
    rw [hr] at h hc
    obtain ⟨⟨kept, hk⟩, -⟩ := hc
    rw [onward_ok] at h
    cases hstop : c.stop with
    | some fault => simp [hstop] at h
    | none =>
      simp only [hstop] at h
      cases h
      exact hk.opened

/-- What is open is nested throughout a row of visits if it is throughout each of them. -/
theorem throughout_visitAll {visit : δ → Tour δ} (hends : ∀ d s, Ends course n [d] s (visit d s))
    (hv : ∀ d s, Ready course root s d →
      Throughout (Nested course root) s (terminus (visit d s))) (ds : List δ) (s : Track δ)
    (hs : Nested course root s.opened) (hds : ∀ y ∈ ds, Ready course root s y) :
    Throughout (Nested course root) s (terminus (visitAll visit ds s)) := by
  induction ds generalizing s with
  | nil => exact .refl hs
  | cons y ds ih =>
    have hfirst := hv y s (hds y (by simp))
    have hend := hends y s
    rw [visitAll]
    cases hr : visit y s with
    | error fault t =>
      rw [hr] at hfirst
      exact hfirst
    | ok _ t =>
      rw [hr] at hfirst hend
      rw [onward_ok]
      have hready : ∀ z ∈ ds, Ready course root t z := fun z hz =>
        (hds z (List.mem_cons_of_mem y hz)).after hend
      exact hfirst.trans (ih t ((hds y (by simp)).after hend).nested hready)

/-- What is open is nested throughout a survey. -/
theorem throughout_survey (course : δ → Course δ) (leaving : δ → Fault → Fault) (root : δ) (n : Nat)
    (d : δ) (s : Track δ) (h : Ready course root s d) :
    Throughout (Nested course root) s (terminus (survey course leaving n d s)) := by
  induction n generalizing d s with
  | zero =>
    by_cases hd : d ∈ s.marked
    · rw [survey_of_mem hd]
      exact .refl h.nested
    · rw [survey_zero_of_notMem hd]
      exact .refl h.nested
  | succ n ih =>
    by_cases hd : d ∈ s.marked
    · rw [survey_of_mem hd]
      exact .refl h.nested
    have hopened : (s.enter d).opened = d :: s.opened := Track.opened_enter d s
    have hmarked : ∀ x ∈ (s.enter d).opened, x ∈ (s.enter d).marked := by
      rw [hopened]
      exact List.forall_mem_cons.2 ⟨by simp, fun x hx => List.mem_cons_of_mem d (h.marked x hx)⟩
    have hnested : Nested course root (s.enter d).opened := hopened ▸ h.next hd
    -- What is open is marked, so a type that is not can be opened on top of it.
    have hready : ∀ y ∈ (course d).visits, Ready course root (s.enter d) y := by
      refine fun y hy => ⟨hmarked, hnested, fun hym => ?_⟩
      rw [hopened] at hmarked ⊢
      exact (h.next hd).cons (fun hyo => hym (hmarked y hyo)) hy
    have hends := ends_survey course leaving n
    have hin := throughout_visitAll hends ih (course d).visits (s.enter d) hnested hready
    have hwhole := (Throughout.enter h.nested (h.next hd)).trans hin
    rw [survey_succ_of_notMem hd]
    rw [← terminus_run (survey course leaving n) (course d) (s.enter d)] at hwhole
    cases hr : (course d).run (survey course leaving n) (s.enter d) with
    | error fault t =>
      rw [hr] at hwhole
      exact hwhole.rollBack
    | ok _ t =>
      rw [hr] at hwhole
      have ht : t.opened = d :: s.opened := (opened_of_run_eq_ok hends hr).trans hopened
      have hleft : t.opened.erase d = s.opened := by rw [ht, List.erase_cons_head]
      exact hwhole.trans (.leave (ht ▸ h.next hd) (hleft ▸ h.nested))

end

namespace Walker

variable {σ α ν : Type} {p : Provider σ δ α ν} {inOrder : σ → Prop} {m : σ}

/-- At every moment of a walk of any depth the open types are nested below the root. -/
theorem nested_of_openAt (steady : p.Steady inOrder) (hm : inOrder m) (w : Walker δ) (depth : Nat)
    (root : δ) {path : List δ} (h : OpenAt (w.load p depth m (.concrete root)).moves path) :
    Nested ((p.answers m).course w.options) root path := by
  have hready : Ready ((p.answers m).course w.options) root w.start root :=
    ⟨by simp, .nil _ _, fun _ => .singleton _ _⟩
  have hall := throughout_survey _ (p.answers m).leaving root depth root w.start hready
  have hsurvey : w.survey (p.answers m) depth (.concrete root) =
      TypeReach.survey ((p.answers m).course w.options) (p.answers m).leaving depth root
        w.start := by
    simp only [survey, TypeRef.course, Course.run_visit]
  have hend : terminus (w.survey (p.answers m) depth (.concrete root)) =
      { marked := (w.load p depth m (.concrete root)).marked
        moves := (w.load p depth m (.concrete root)).moves.reverse } := by
    rcases (load_cases steady hm w depth (.concrete root)).1 with ⟨-, hs⟩ | ⟨fault, -, hs⟩
    · rw [hs]
      rfl
    · rw [hs]
      rfl
  rw [← hsurvey, hend] at hall
  have behind {before : List (Move δ)}
      (hb : before <+: (w.load p depth m (.concrete root)).moves) :
      Nested ((p.answers m).course w.options) root (openAfter before) := by
    have h := hall.holds before.reverse (List.nil_suffix) (List.reverse_suffix.2 hb)
    rwa [List.reverse_reverse] at h
  rcases h with ⟨before, hb, rfl⟩ | hs
  · exact behind hb
  · exact (behind List.prefix_rfl).suffix hs

end Walker

namespace Graph.Environment

variable (e : Environment) {options : WalkOptions} {root d : Descriptor} {path : List Descriptor}

theorem defines_iff (name : String) : e.defines name = true ↔ e.lookup name ≠ none := by
  simp only [defines, Table.contains, lookup]
  cases e.types.get? name <;> simp

variable {e}

/-- Only defined types have anything to visit. -/
theorem defines_of_visits (h : (e.answers.course options d).visits ≠ []) :
    e.defines d.typeName = true := by
  obtain ⟨y, hy⟩ := List.exists_mem_of_ne_nil _ h
  exact (e.defines_iff d.typeName).2 (named_of_depends (Answers.depends_of_mem_visits hy)).1

/-- There are no more defined types that are known by their names than definitions. -/
theorem length_le_size (distinct : path.Nodup) (named : ∀ d ∈ path, ∃ name, d = .named name)
    (defined : ∀ d ∈ path, e.defines d.typeName = true) : path.length ≤ e.size := by
  have hsub : path ⊆ e.types.names.map Descriptor.named := by
    intro d hd
    obtain ⟨name, rfl⟩ := named d hd
    have hn : e.types.get? name ≠ none := (e.defines_iff name).1 (defined _ hd)
    have hmem : name ∈ e.types.names :=
      Classical.not_not.1 fun h => hn ((e.types.get?_eq_none_iff name).2 h)
    exact List.mem_map_of_mem hmem
  have hle := (List.subperm_of_subset distinct hsub).length_le
  simpa [Table.names, size, Table.size] using hle

/-- Below a type known by its name, all open types are known by their names. -/
theorem named_of_nested {name : String}
    (h : Nested (e.answers.course options) (.named name) path) :
    ∀ d ∈ path, ∃ name, d = .named name := by
  intro d hd
  rcases h.eq_root_or_visited d hd with rfl | ⟨o, ho⟩
  · exact ⟨name, rfl⟩
  · exact (named_of_depends (Answers.depends_of_mem_visits ho)).2

theorem defines_of_mem_tail (h : Nested (e.answers.course options) root path) :
    ∀ d ∈ path.tail, e.defines d.typeName = true :=
  fun d hd => defines_of_visits (h.visits_ne_nil d hd)

/-- All open types but the innermost are defined, so they are at most one more than there are
definitions, and no more than those if the innermost one has something to visit. -/
theorem length_le_of_nested {name : String}
    (h : Nested (e.answers.course options) (.named name) path) :
    path.length ≤ e.size + 1 ∧
      ((∀ d ∈ path.head?, e.defines d.typeName = true) → path.length ≤ e.size) := by
  have named := named_of_nested h
  have tail := defines_of_mem_tail h
  cases path with
  | nil => simp
  | cons d path =>
    constructor
    · have hle : path.length ≤ e.size :=
        length_le_size (List.nodup_cons.1 h.distinct).2
          (fun x hx => named x (List.mem_cons_of_mem d hx)) tail
      exact Nat.succ_le_succ hle
    · intro hd
      exact length_le_size h.distinct named (List.forall_mem_cons.2 ⟨hd d (by simp), tail⟩)

/-- For a type known by its name, one level more than there are definitions is deep enough. -/
theorem deep_named (e : Environment) (options : WalkOptions) (marked : List Descriptor)
    (name : String) : Deep (e.answers.course options) (e.size + 1) marked (.named name) := by
  refine ⟨(e.types.names.map Descriptor.named).toFinset, fun x hr hv => ?_, ?_⟩
  · have hn : ∃ n, x = .named n := by
      rcases hr.2.cases_tail with rfl | ⟨y, -, hy⟩
      · exact ⟨name, rfl⟩
      · exact (named_of_depends (Answers.depends_of_mem_visits hy.1)).2
    obtain ⟨n, rfl⟩ := hn
    have hd : e.types.get? n ≠ none := (e.defines_iff n).1 (defines_of_visits hv)
    have hmem : n ∈ e.types.names :=
      Classical.not_not.1 fun h => hd ((e.types.get?_eq_none_iff n).2 h)
    exact List.mem_toFinset.2 (List.mem_map_of_mem hmem)
  · have hfilter := Finset.card_filter_le (e.types.names.map Descriptor.named).toFinset (· ∉ marked)
    have hcard := List.toFinset_card_le (e.types.names.map Descriptor.named)
    have hsize : (e.types.names.map Descriptor.named).length = e.size := by
      simp [Table.names, size, Table.size]
    omega

end Graph.Environment

namespace Walker

open TypeReach.Graph TypeReach.Graph.Environment

/-- Every walk in an environment ends: from a depth that only the environment sets on, more depth
makes no difference, and none is missed. At every moment, and to any depth, the open types are
distinct, and all but the innermost are defined. So below one of the environment's own handles at
most one more than there are definitions are open, and there are one fewer while the innermost one
depends on anything: with a visit that finds its type marked and returns at once, it is no more. -/
theorem load_nests (e : Environment) (w : Walker Descriptor) {memory : Parses}
    (hm : Faithful memory) (root : Descriptor) :
    let load := fun depth => w.load e.provider depth memory (.concrete root)
    (∀ depth, e.depth ≤ depth → load depth = load e.depth) ∧
    (load e.depth).outcome ≠ .error .nestedTooDeep ∧
    (∀ depth path, OpenAt (load depth).moves path →
      path.Nodup ∧ ∀ d ∈ path.tail, e.defines d.typeName = true) ∧
    ∀ name, root = .named name →
      load (e.size + 1) = load e.depth ∧
      ∀ depth path, OpenAt (load depth).moves path → path.length ≤ e.size + 1 ∧
        ∀ d ∈ path.head?, (∃ x, e.answers.Depends w.options d x) → path.length ≤ e.size := by
  intro load
  have hne : (load e.depth).outcome ≠ .error .nestedTooDeep :=
    load_ne_nestedTooDeep hm (e.deep w.options w.marked root)
  have nested {depth : Nat} {path : List Descriptor} (h : OpenAt (load depth).moves path) :
      Nested (e.answers.course w.options) root path := by
    have h := nested_of_openAt e.gives_provider.steady hm w depth root h
    rwa [e.gives_provider.answers_eq hm] at h
  refine ⟨fun depth hd => load_eq_of_le hd hne, hne, fun depth path h =>
    ⟨(nested h).distinct, defines_of_mem_tail (nested h)⟩, ?_⟩
  rintro name rfl
  have hnamed : (load (e.size + 1)).outcome ≠ .error .nestedTooDeep :=
    load_ne_nestedTooDeep hm (e.deep_named w.options w.marked name)
  refine ⟨(load_eq_of_le (by simp [Environment.depth]) hnamed).symm, fun depth path h => ?_⟩
  obtain ⟨hle, hdefined⟩ := length_le_of_nested (nested h)
  refine ⟨hle, ?_⟩
  rintro d hd ⟨x, hx⟩
  refine hdefined fun y hy => ?_
  rw [Option.mem_unique hy hd]
  exact (e.defines_iff d.typeName).2 (named_of_depends hx).1

/-- With `A` and `B` defined, the three types `X`, `A`, `B` are open when `X` is missed. -/
theorem load_nests_unfinished :
    let w : Walker Descriptor := { marked := [.named "Y"] }
    let r := w.load unfinished.provider (unfinished.size + 1) .empty (.concrete (.named "B"))
    let path : List Descriptor := [.named "X", .named "A", .named "B"]
    Faithful .empty ∧ OpenAt r.moves path ∧ r.outcome ≠ .error .nestedTooDeep ∧
      path.Nodup ∧ path.length ≤ unfinished.size + 1 ∧ path.length = 3 ∧ unfinished.size = 2 := by
  intro w r path
  obtain ⟨-, hne, hopen, hroot⟩ := load_nests unfinished w faithful_empty (.named "B")
  obtain ⟨heq, hlength⟩ := hroot "B" rfl
  have hr : r.outcome ≠ .error .nestedTooDeep := by
    rw [show r = _ from heq]
    exact hne
  have hpath : OpenAt r.moves path := .inl ⟨r.moves, List.prefix_rfl, by decide +kernel⟩
  exact ⟨faithful_empty, hpath, hr, (hopen _ _ hpath).1, (hlength _ _ hpath).1, rfl,
    by decide +kernel⟩

end Walker

end TypeReach
