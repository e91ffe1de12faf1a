import TypeReach.Proofs.Depth
import TypeReach.Proofs.Loading

/-!
# A machine that walks

The walk of an environment without recursion: a machine with a stack of obligations and a list of
marks. A type that is not marked is marked and replaced by its obligations; the first type that is
missed halts the machine. The recursive walk comes to the same verdict and marks the same types in
the same order.
-/

namespace TypeReach

/-- The types that moves mark, in order. -/
def Move.entered? {δ : Type} : Move δ → Option δ
  | entered d => some d
  | returned _ => none

namespace Graph

/-- What a machine comes to: all is done, a type to walk is not defined, or a type that an attribute
names is not. -/
inductive Verdict where
  | resolved
  | missing (name : String)
  | unforced (name : String)
  deriving DecidableEq, Repr

/-- How a walk reports a verdict. -/
def Verdict.outcome : Verdict → Except Fault Unit
  | resolved => .ok ()
  | missing name => .error (.unresolved (some name)
      (some (.linkage ("No definition found for type " ++ name) (some name))))
  | unforced name => .error (.unresolved (some name) (some (.notPresent (some name) none)))

/-- A report tells the verdict. -/
theorem Verdict.outcome_injective : Function.Injective Verdict.outcome := by
  intro a b h
  cases a <;> cases b <;> simp_all [Verdict.outcome]

/-- Obligations that are left and descriptors that are marked, the latest first. -/
structure Machine where
  pending : List Obligation
  marked : List Descriptor

/-- A verdict and what is marked then. -/
abbrev Halt := Verdict × List Descriptor

namespace Machine

variable (e : Environment) (options : WalkOptions)

/-- One step of a machine. -/
def next : Machine → Except Halt Machine
  | ⟨[], marked⟩ => .error (.resolved, marked)
  | ⟨.force v :: rest, marked⟩ =>
    match e.absent? v with
    | none => .ok ⟨rest, marked⟩
    | some name => .error (.unforced name, marked)
  | ⟨.walk d :: rest, marked⟩ =>
    if d ∈ marked then .ok ⟨rest, marked⟩
    else
      match e.lookup d.typeName with
      | none => .error (.missing d.typeName, d :: marked)
      | some definition => .ok ⟨e.obligations options definition ++ rest, d :: marked⟩

/-- What a machine halts with within some steps, if it does. -/
def run : Nat → Machine → Option Halt
  | 0, _ => none
  | n + 1, m =>
    match m.next e options with
    | .ok m' => run n m'
    | .error halt => some halt

/-- A machine comes to another one. -/
def Steps (m m' : Machine) : Prop :=
  Relation.ReflTransGen (fun m m' => m.next e options = .ok m') m m'

/-- A machine comes to a halt. -/
def Halts (m : Machine) (halt : Halt) : Prop :=
  ∃ m', Steps e options m m' ∧ m'.next e options = .error halt

variable {e options} {m m' : Machine} {halt : Halt}

theorem Steps.single (h : m.next e options = .ok m') : Steps e options m m' :=
  Relation.ReflTransGen.single h

theorem Halts.of_next (h : m.next e options = .error halt) : Halts e options m halt :=
  ⟨m, .refl, h⟩

theorem Steps.halts (h : Steps e options m m') (h' : Halts e options m' halt) :
    Halts e options m halt := by
  obtain ⟨m'', hm, hn⟩ := h'
  exact ⟨m'', Relation.ReflTransGen.trans h hm, hn⟩

/-- From some number of steps on, a machine that halts has halted. -/
theorem exists_run_of_halts (h : Halts e options m halt) :
    ∃ n, ∀ k, n ≤ k → m.run e options k = some halt := by
  obtain ⟨m', hsteps, hhalt⟩ := h
  induction hsteps using Relation.ReflTransGen.head_induction_on with
  | refl =>
    refine ⟨1, fun k hk => ?_⟩
    obtain ⟨k, rfl⟩ := Nat.exists_eq_add_of_le' hk
    simp only [run, hhalt]
  | head hnext _ ih =>
    obtain ⟨n, hn⟩ := ih
    refine ⟨n + 1, fun k hk => ?_⟩
    obtain ⟨k, rfl⟩ := Nat.exists_eq_add_of_le' (Nat.le_of_add_left_le hk)
    simp only [run, hnext]
    exact hn k (by omega)

/-- What a step can do: resolve an attribute, pass over a type that is marked, or mark a type. -/
theorem next_eq_ok (h : m.next e options = .ok m') :
    (∃ v rest, m.pending = .force v :: rest ∧ e.absent? v = none ∧ m' = ⟨rest, m.marked⟩) ∨
    (∃ d rest, m.pending = .walk d :: rest ∧ d ∈ m.marked ∧ m' = ⟨rest, m.marked⟩) ∨
    ∃ d rest definition, m.pending = .walk d :: rest ∧ d ∉ m.marked ∧
      e.lookup d.typeName = some definition ∧
      m' = ⟨e.obligations options definition ++ rest, d :: m.marked⟩ := by
  fun_cases next e options m <;> simp_all [next]

theorem next_eq_resolved {marked : List Descriptor}
    (h : m.next e options = .error (.resolved, marked)) : m.pending = [] ∧ m.marked = marked := by
  fun_cases next e options m <;> simp_all [next]

theorem next_eq_missing {name : String} {marked : List Descriptor}
    (h : m.next e options = .error (.missing name, marked)) :
    ∃ d rest, m.pending = .walk d :: rest ∧ e.lookup d.typeName = none ∧ d.typeName = name := by
  fun_cases next e options m <;> simp_all [next]

theorem next_eq_unforced {name : String} {marked : List Descriptor}
    (h : m.next e options = .error (.unforced name, marked)) :
    ∃ v rest, m.pending = .force v :: rest ∧ e.absent? v = some name := by
  fun_cases next e options m <;> simp_all [next]

theorem next_walk_of_mem {d : Descriptor} {rest : List Obligation} {marked : List Descriptor}
    (h : d ∈ marked) : next e options ⟨.walk d :: rest, marked⟩ = .ok ⟨rest, marked⟩ := by
  simp only [next, h, if_true]

theorem next_walk_of_undefined {d : Descriptor} {rest : List Obligation}
    {marked : List Descriptor} (h : d ∉ marked) (hd : e.lookup d.typeName = none) :
    next e options ⟨.walk d :: rest, marked⟩ = .error (.missing d.typeName, d :: marked) := by
  simp only [next, h, if_false, hd]

theorem next_walk_of_defined {d : Descriptor} {rest : List Obligation} {marked : List Descriptor}
    {definition : TypeDefinition} (h : d ∉ marked) (hd : e.lookup d.typeName = some definition) :
    next e options ⟨.walk d :: rest, marked⟩ =
      .ok ⟨e.obligations options definition ++ rest, d :: marked⟩ := by
  simp only [next, h, if_false, hd]

end Machine

/-- Between two states a survey marks these types, the latest first. -/
def Marks (s t : Track Descriptor) (ds : List Descriptor) : Prop :=
  ∃ later, t.moves = later ++ s.moves ∧ later.filterMap Move.entered? = ds

namespace Marks

variable {s t u : Track Descriptor} {ds ds' : List Descriptor} {d : Descriptor}

theorem refl (s : Track Descriptor) : Marks s s [] :=
  ⟨[], rfl, rfl⟩

theorem trans (h : Marks s t ds) (h' : Marks t u ds') : Marks s u (ds' ++ ds) := by
  obtain ⟨later, ht, rfl⟩ := h
  obtain ⟨later', hu, rfl⟩ := h'
  exact ⟨later' ++ later, by rw [hu, ht, List.append_assoc], List.filterMap_append⟩

theorem enter (d : Descriptor) (s : Track Descriptor) : Marks s (s.enter d) [d] :=
  ⟨[.entered d], rfl, rfl⟩

theorem leave (h : Marks s t ds) : Marks s (t.leave d) ds := by
  obtain ⟨later, ht, rfl⟩ := h
  exact ⟨.returned d :: later, by rw [Track.leave, ht]; rfl, rfl⟩

theorem rollBack (h : Marks s t ds) : Marks s (t.rollBack d) ds := h

end Marks

/-- A fault reports a verdict. -/
def Verdict.Reports (verdict : Verdict) (fault : Fault) : Prop :=
  verdict.outcome = .error fault

/-- A fault reports a verdict, or will do so when the innermost open type is left for it. -/
inductive Verdict.Raises : Verdict → Fault → Prop
  | reported {verdict fault} : verdict.Reports fault → Raises verdict fault
  | absent {name} : Raises (.unforced name) (.notPresent (some name) none)

/-- What comes of a survey is what a machine comes to that has these obligations on top; the fault
of the one goes with the verdict of the other. -/
def Simulates (e : Environment) (options : WalkOptions) (goesWith : Verdict → Fault → Prop)
    (os : List Obligation) (s : Track Descriptor) :
    EStateM.Result Fault (Track Descriptor) Unit → Prop
  | .ok _ t => ∃ ds, Marks s t ds ∧ t.marked = ds ++ s.marked ∧
      ∀ rest, Machine.Steps e options ⟨os ++ rest, s.marked⟩ ⟨rest, t.marked⟩
  | .error fault t => fault = .nestedTooDeep ∨ ∃ ds verdict, Marks s t ds ∧ goesWith verdict fault ∧
      ∀ rest, Machine.Halts e options ⟨os ++ rest, s.marked⟩ (verdict, ds ++ s.marked)

section

variable {e : Environment} {options : WalkOptions} {n : Nat} {o : Obligation}
  {os : List Obligation} {s t : Track Descriptor} {d : Descriptor}

theorem Simulates.raises {r : EStateM.Result Fault (Track Descriptor) Unit}
    (h : Simulates e options Verdict.Reports os s r) :
    Simulates e options Verdict.Raises os s r := by
  cases r with
  | ok _ t => exact h
  | error fault t =>
    obtain rfl | ⟨ds, verdict, hm, hv, hh⟩ := h
    · exact .inl rfl
    · exact .inr ⟨ds, verdict, hm, .reported hv, hh⟩

theorem Simulates.cons {goesWith : Verdict → Fault → Prop}
    {r : EStateM.Result Fault (Track Descriptor) Unit} {next : Tour Descriptor}
    (h : Simulates e options goesWith [o] s r)
    (hn : ∀ t, Simulates e options goesWith os t (next t)) :
    Simulates e options goesWith (o :: os) s (onward r next) := by
  cases r with
  | error fault t =>
    obtain rfl | ⟨ds, verdict, hm, hv, hh⟩ := h
    · exact .inl rfl
    · exact .inr ⟨ds, verdict, hm, hv, fun rest => hh (os ++ rest)⟩
  | ok _ t =>
    obtain ⟨ds, hm, hmarked, hs⟩ := h
    have ht := hn t
    rw [onward_ok]
    cases hr : next t with
    | error fault u =>
      rw [hr] at ht
      obtain rfl | ⟨ds', verdict, hm', hv, hh⟩ := ht
      · exact .inl rfl
      · refine .inr ⟨ds' ++ ds, verdict, hm.trans hm', hv, fun rest => ?_⟩
        rw [List.append_assoc, ← hmarked]
        exact (hs (os ++ rest)).halts (hh rest)
    | ok _ u =>
      rw [hr] at ht
      obtain ⟨ds', hm', hmarked', hs'⟩ := ht
      refine ⟨ds' ++ ds, hm.trans hm', by rw [hmarked', hmarked, List.append_assoc], fun rest => ?_⟩
      exact Relation.ReflTransGen.trans (hs (os ++ rest)) (hs' rest)

/-- An attribute is resolved, or halts the machine, in one step. -/
theorem simulates_force (visit : Descriptor → Tour Descriptor) (v : Value)
    (s : Track Descriptor) :
    Simulates e options Verdict.Raises [.force v] s (((Obligation.force v).course e).run visit s) := by
  simp only [Obligation.course]
  cases h : e.absent? v with
  | none =>
    refine ⟨[], .refl s, rfl, fun rest => .single ?_⟩
    simp only [List.singleton_append, Machine.next, h]
  | some name =>
    refine .inr ⟨[], .unforced name, .refl s, .absent, fun rest => .of_next ?_⟩
    simp only [List.singleton_append, Machine.next, h, List.nil_append]

theorem simulates_all {visit : Descriptor → Tour Descriptor}
    (hv : ∀ d s, Simulates e options Verdict.Reports [.walk d] s (visit d s))
    (os : List Obligation) (s : Track Descriptor) :
    Simulates e options Verdict.Raises os s ((Course.all (Obligation.course e) os).run visit s) := by
  induction os generalizing s with
  | nil => exact ⟨[], .refl s, rfl, fun rest => .refl⟩
  | cons o os ih =>
    rw [Course.all_cons, Course.run_andThen]
    refine Simulates.cons ?_ ih
    cases o with
    | walk d =>
      simp only [Obligation.course, Course.run_visit]
      exact (hv d s).raises
    | force v => exact simulates_force visit v s

/-- A type that is left for a fault reports the verdict. -/
theorem outcome_eq_leaving {verdict : Verdict} {fault : Fault} (h : verdict.Raises fault)
    (d : Descriptor) : verdict.outcome = .error (e.answers.leaving d fault) := by
  cases h with
  | absent => rfl
  | reported h =>
    cases verdict with
    | resolved => cases h
    | missing name =>
      cases h
      rfl
    | unforced name =>
      cases h
      rfl

theorem outcome_missing (d : Descriptor) :
    (Verdict.missing d.typeName).outcome = .error (e.answers.leaving d
      (.linkage ("No definition found for type " ++ d.typeName) (some d.typeName))) := by
  -- An empty name is looked up again, and is the same.
  have hb : e.answers.blame d (some d.typeName) = .ok d.typeName := by
    simp only [Answers.blame]
    split
    · rfl
    · rfl
  simp only [Verdict.outcome, Answers.leaving, hb]

theorem simulates_of_mem (n : Nat) (hd : d ∈ s.marked) :
    Simulates e options Verdict.Reports [.walk d] s (survey (e.answers.course options)
      e.answers.leaving n d s) := by
  rw [survey_of_mem hd]
  exact ⟨[], .refl s, rfl, fun rest => .single (Machine.next_walk_of_mem hd)⟩

/-- The survey of a type is what the machine does with the obligation to walk it. -/
theorem simulates_survey (options : WalkOptions) (he : e.AllLegible) (n : Nat) (d : Descriptor)
    (s : Track Descriptor) :
    Simulates e options Verdict.Reports [.walk d] s
      (survey (e.answers.course options) e.answers.leaving n d s) := by
  -- The obligations of a type are surveyed one level deeper, so the induction is on the depth.
  induction n generalizing d s with
  | zero =>
    by_cases hd : d ∈ s.marked
    · exact simulates_of_mem 0 hd
    · rw [survey_zero_of_notMem hd]
      exact .inl rfl
  | succ n ih =>
    by_cases hd : d ∈ s.marked
    · exact simulates_of_mem (n + 1) hd
    rw [survey_succ_of_notMem hd]
    cases hl : e.lookup d.typeName with
    | none =>
      rw [Environment.course_of_undefined e options hl]
      refine .inr ⟨[d], .missing d.typeName, (Marks.enter d s).rollBack,
        outcome_missing d, fun rest => .of_next ?_⟩
      exact Machine.next_walk_of_undefined hd hl
    | some definition =>
      rw [Environment.course_of_defined e options hl (he _ _ hl)]
      have hall := simulates_all ih (e.obligations options definition) (s.enter d)
      have hfirst (rest : List Obligation) : Machine.Steps e options ⟨.walk d :: rest, s.marked⟩
          ⟨e.obligations options definition ++ rest, d :: s.marked⟩ :=
        .single (Machine.next_walk_of_defined hd hl)
      cases hr : (Course.all (Obligation.course e) (e.obligations options definition)).run
          (survey (e.answers.course options) e.answers.leaving n) (s.enter d) with
      | error fault t =>
        rw [hr] at hall
        obtain rfl | ⟨ds, verdict, hm, hv, hh⟩ := hall
        · exact .inl rfl
        · refine .inr ⟨ds ++ [d], verdict, ((Marks.enter d s).trans hm).rollBack,
            outcome_eq_leaving hv d, fun rest => ?_⟩
          rw [List.append_assoc]
          exact (hfirst rest).halts (hh rest)
      | ok _ t =>
        rw [hr] at hall
        obtain ⟨ds, hm, hmarked, hs⟩ := hall
        refine ⟨ds ++ [d], ((Marks.enter d s).trans hm).leave, ?_, fun rest => ?_⟩
        · rw [List.append_assoc]
          exact hmarked
        · exact Relation.ReflTransGen.trans (hfirst rest) (hs rest)

end

/-- Graph data in which `A` needs `B`, whose annotation names `A`, and then the missing `Y` and `X`,
of which `Y` is written as a lower bound. -/
def bounded : Value :=
  .map [(.str "types", .map [
    (.str "A", .map [(.str "fields", .map [(.str "b", .str "B")]),
      (.str "interfaces", .list [.str "Box<? super Y & X, A>"])]),
    (.str "B", .map [(.str "annotations", .list [.map [(.str "type", .str "Mark"),
      (.str "attributes", .map [(.str "kind", .map [(.str "type_value", .str "A")])])]])]),
    (.str "Mark", .null),
    (.str "Box", .null)])]

end Graph

namespace Walker

open TypeReach.Graph

/-- A load that is deep enough comes to the verdict of the machine that has to walk the root, and
marks what the machine marks. -/
theorem load_halts {e : Environment} (he : e.AllLegible) {memory : Parses} (hm : Faithful memory)
    (w : Walker Descriptor) {depth : Nat} (hd : e.depth ≤ depth) (root : Descriptor) :
    let r := w.load e.provider depth memory (.concrete root)
    let marked := (r.moves.filterMap Move.entered?).reverse ++ w.marked
    ∃ verdict, Machine.Halts e w.options ⟨[.walk root], w.marked⟩ (verdict, marked) ∧
      r.outcome = verdict.outcome ∧ (r.outcome = .ok () → r.marked = marked) := by
  intro r marked
  have hsim := simulates_survey w.options he depth root w.start
  have hsurvey : w.survey (e.provider.answers memory) depth (.concrete root) =
      TypeReach.survey (e.answers.course w.options) e.answers.leaving depth root w.start := by
    simp only [survey, TypeRef.course, Course.run_visit, e.gives_provider.answers_eq hm]
  have marks {ds : List Descriptor}
      (h : Marks w.start { marked := r.marked, moves := r.moves.reverse } ds) :
      ds ++ w.marked = marked := by
    obtain ⟨later, hmoves, rfl⟩ := h
    rw [show later = r.moves.reverse by simpa [start] using hmoves.symm, List.filterMap_reverse]
  rw [← hsurvey] at hsim
  rcases (load_cases e.gives_provider.steady hm w depth (.concrete root)).1 with
    ⟨ho, hs⟩ | ⟨fault, ho, hs⟩
  · rw [hs] at hsim
    obtain ⟨ds, hds, hmarked, hsteps⟩ := hsim
    have hall : r.marked = marked := (hmarked.trans (marks hds))
    refine ⟨.resolved, (hsteps []).halts (.of_next ?_), ho, fun _ => hall⟩
    rw [← hall]
    rfl
  · have hne : fault ≠ .nestedTooDeep := by
      rintro rfl
      exact load_ne_nestedTooDeep hm ((e.deep w.options w.marked root).of_le hd) ho
    rw [hs] at hsim
    obtain hfault | ⟨ds, verdict, hds, hreports, hhalts⟩ := hsim
    · exact absurd hfault hne
    · refine ⟨verdict, ?_, ho.trans hreports.symm, fun hok => ?_⟩
      · rw [← marks hds]
        exact hhalts []
      · cases ho.symm.trans hok

/-- In a loaded environment a load agrees with the machine that has to walk the root and starts from
the same marks. The machine halts, with the verdict that the load reports: that all is done, or that
a type is missing, by its name and by whether it had to be walked or was named by an attribute. Both
mark the same types in the same order, and what a load that succeeds leaves marked is what the
machine does. -/
theorem load_agrees_with_machine {data : Value} {e : Environment}
    (he : Environment.ofValue data = .ok e) {memory : Parses} (hm : Faithful memory)
    (w : Walker Descriptor) {depth : Nat} (hd : e.depth ≤ depth) (root : Descriptor) :
    let r := w.load e.provider depth memory (.concrete root)
    let marked := (r.moves.filterMap Move.entered?).reverse ++ w.marked
    ∃ verdict, (∃ n, ∀ k, n ≤ k →
        Machine.run e w.options k ⟨[.walk root], w.marked⟩ = some (verdict, marked)) ∧
      r.outcome = verdict.outcome ∧ (r.outcome = .ok () → r.marked = marked) := by
  intro r marked
  obtain ⟨verdict, hhalts, houtcome, hmarked⟩ :=
    load_halts (Environment.allLegible_of_ofValue he) hm w hd root
  exact ⟨verdict, Machine.exists_run_of_halts hhalts, houtcome, hmarked⟩

/-- The machine halts at `Y`, behind `A`, `B`, `Mark` and `Box`. -/
theorem load_agrees_with_machine_bounded :
    ∃ e, Environment.ofValue bounded = .ok e ∧ Faithful .empty ∧ e.depth ≤ 6 ∧
      ∃ n, ∀ k, n ≤ k → Machine.run e {} k ⟨[.walk (.named "A")], []⟩ = some (.missing "Y",
        [.named "Y", .named "Box", .named "Mark", .named "B", .named "A"]) := by
  have loads : (Environment.ofValue bounded).isOk = true := by decide +kernel
  cases h : Environment.ofValue bounded with
  | error why =>
    rw [h] at loads
    cases loads
  | ok e =>
    have he : e = (Environment.ofValue bounded).toOption.getD {} := by rw [h]; rfl
    have hd : e.depth ≤ 6 := by rw [he]; decide +kernel
    obtain ⟨verdict, hrun, houtcome, -⟩ :=
      load_agrees_with_machine h faithful_empty {} hd (.named "A")
    have hmarked : ((({} : Walker Descriptor).load e.provider 6 .empty
        (.concrete (.named "A"))).moves.filterMap Move.entered?).reverse ++ [] =
        [.named "Y", .named "Box", .named "Mark", .named "B", .named "A"] := by
      rw [he]
      decide +kernel
    have hfault : (({} : Walker Descriptor).load e.provider 6 .empty
        (.concrete (.named "A"))).outcome = (Verdict.missing "Y").outcome := by
      rw [he]
      decide +kernel
    have hverdict : verdict = .missing "Y" :=
      Verdict.outcome_injective (houtcome.symm.trans hfault)
    rw [hmarked, hverdict] at hrun
    exact ⟨e, rfl, faithful_empty, hd, hrun⟩

end Walker

end TypeReach
