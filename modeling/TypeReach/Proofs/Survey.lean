import TypeReach.Proofs.Course
import TypeReach.Walk.Walker

/-!
# Surveys

A survey is a walk with nothing but marks and moves: every type has its course, and nobody is
asked anything. What a walk over a steady provider marks, where it moves and how it ends is what the
survey along the courses of the provider's answers does.
-/

namespace TypeReach

/-- A step that changes marks and moves only. -/
abbrev Tour (δ : Type) := Track δ → EStateM.Result Fault (Track δ) Unit

namespace Track

variable {δ : Type}

/-- Marks a type and opens it. -/
def enter (d : δ) (t : Track δ) : Track δ :=
  { marked := d :: t.marked, moves := .entered d :: t.moves }

/-- Leaves an open type. -/
def leave (d : δ) (t : Track δ) : Track δ :=
  { t with moves := .returned d :: t.moves }

/-- Takes the mark of an open type back. -/
def rollBack [DecidableEq δ] (d : δ) (t : Track δ) : Track δ :=
  { t with marked := t.marked.erase d }

end Track

section

variable {δ : Type}

/-- Goes on from a result unless it is a fault. -/
def onward (r : EStateM.Result Fault (Track δ) Unit) (next : Tour δ) :
    EStateM.Result Fault (Track δ) Unit :=
  match r with
  | .ok _ t => next t
  | .error fault t => .error fault t

/-- Visits types in order. -/
def visitAll (visit : δ → Tour δ) : List δ → Tour δ
  | [], t => .ok () t
  | d :: ds, t => onward (visit d t) (visitAll visit ds)

/-- Does the visits of a course and stops with its fault, if it has one. -/
def Course.run (visit : δ → Tour δ) (c : Course δ) (t : Track δ) :
    EStateM.Result Fault (Track δ) Unit :=
  onward (visitAll visit c.visits t) fun t =>
    match c.stop with
    | none => .ok () t
    | some fault => .error fault t

/-- What comes of an open type, given what came of its course: it is left, or its mark is taken
back. -/
def closing [DecidableEq δ] (leaving : δ → Fault → Fault) (d : δ) :
    EStateM.Result Fault (Track δ) Unit → EStateM.Result Fault (Track δ) Unit
  | .ok _ t => .ok () (t.leave d)
  | .error fault t => .error (leaving d fault) (t.rollBack d)

/-- Visits a type unless it is marked: marks it, runs its course, and takes the mark back if that
fails. At most `depth` types are open at once. -/
def survey [DecidableEq δ] (course : δ → Course δ) (leaving : δ → Fault → Fault) :
    Nat → δ → Tour δ
  | 0, d, t => if d ∈ t.marked then .ok () t else .error .nestedTooDeep t
  | depth + 1, d, t =>
    if d ∈ t.marked then .ok () t
    else closing leaving d ((course d).run (survey course leaving depth) (t.enter d))

@[simp] theorem onward_ok (u : Unit) (t : Track δ) (next : Tour δ) :
    onward (.ok u t) next = next t := rfl

@[simp] theorem onward_error (fault : Fault) (t : Track δ) (next : Tour δ) :
    onward (.error fault t) next = .error fault t := rfl

theorem onward_onward (r : EStateM.Result Fault (Track δ) Unit) (next next' : Tour δ) :
    onward (onward r next) next' = onward r fun t => onward (next t) next' := by
  cases r <;> rfl

theorem visitAll_append (visit : δ → Tour δ) (ds es : List δ) (t : Track δ) :
    visitAll visit (ds ++ es) t = onward (visitAll visit ds t) (visitAll visit es) := by
  induction ds generalizing t with
  | nil => rfl
  | cons d ds ih =>
    simp only [List.cons_append, visitAll, onward_onward]
    exact congrArg (onward _) (funext ih)

theorem visitAll_congr {visit visit' : δ → Tour δ} {ds : List δ}
    (h : ∀ d ∈ ds, ∀ t, visit d t = visit' d t) (t : Track δ) :
    visitAll visit ds t = visitAll visit' ds t := by
  induction ds generalizing t with
  | nil => rfl
  | cons d ds ih =>
    obtain ⟨hd, hds⟩ := List.forall_mem_cons.1 h
    rw [visitAll, visitAll, hd]
    exact congrArg (onward _) (funext (ih hds))

section

variable [DecidableEq δ] {course : δ → Course δ} {leaving : δ → Fault → Fault} {depth : Nat} {d : δ}
  {t : Track δ}

theorem survey_of_mem (h : d ∈ t.marked) : survey course leaving depth d t = .ok () t := by
  cases depth <;> simp [survey, h]

theorem survey_zero_of_notMem (h : d ∉ t.marked) :
    survey course leaving 0 d t = .error .nestedTooDeep t := by
  simp [survey, h]

theorem survey_succ_of_notMem (h : d ∉ t.marked) : survey course leaving (depth + 1) d t =
    closing leaving d ((course d).run (survey course leaving depth) (t.enter d)) := by
  simp [survey, h]

end

namespace Course

@[simp] theorem run_visit (visit : δ → Tour δ) (d : δ) :
    (Course.visit d).run visit = visit d := by
  funext t
  simp only [run, Course.visit, visitAll]
  cases visit d t <;> rfl

theorem run_andThen (visit : δ → Tour δ) (a b : Course δ) (t : Track δ) :
    (a.andThen b).run visit t = onward (a.run visit t) (b.run visit) := by
  cases hs : a.stop with
  | none =>
    simp only [andThen_of_stop_eq_none hs, run, visitAll_append, hs, onward_onward]
    rfl
  | some fault =>
    rw [andThen_of_stop_ne_none (by simp [hs])]
    simp only [run, hs, onward_onward]
    cases visitAll visit a.visits t <;> rfl

theorem run_congr {visit visit' : δ → Tour δ} {c : Course δ}
    (h : ∀ d ∈ c.visits, ∀ t, visit d t = visit' d t) (t : Track δ) :
    c.run visit t = c.run visit' t := by
  rw [run, run, visitAll_congr h]

end Course

/-- A survey takes courses only of what it can reach. -/
theorem survey_congr [DecidableEq δ] {course course' : δ → Course δ} {leaving : δ → Fault → Fault}
    {S : δ → Prop} (h : ∀ d, S d → course d = course' d)
    (hclosed : ∀ d, S d → ∀ e ∈ (course d).visits, S e) {depth : Nat} {d : δ} (hd : S d)
    (t : Track δ) : survey course leaving depth d t = survey course' leaving depth d t := by
  induction depth generalizing d t with
  | zero => rfl
  | succ depth ih =>
    by_cases hmem : d ∈ t.marked
    · rw [survey_of_mem hmem, survey_of_mem hmem]
    · rw [survey_succ_of_notMem hmem, survey_succ_of_notMem hmem, ← h d hd]
      exact congrArg _ (Course.run_congr (fun e he => ih (hclosed d hd e he)) _)

end

namespace Walk

variable {σ δ α ν β : Type}

/-- Marks and moves of a result. -/
def track : EStateM.Result Fault (WalkState σ δ) β → EStateM.Result Fault (Track δ) β
  | .ok b s => .ok b s.toTrack
  | .error fault s => .error fault s.toTrack

/-- What the provider remembers at a result. -/
def memory : EStateM.Result Fault (WalkState σ δ) β → σ
  | .ok _ s => s.memory
  | .error _ s => s.memory

/-- A step does to marks and moves what a tour does, and keeps the memory in order. -/
def Follows (inOrder : σ → Prop) (step : Walk σ δ Unit) (tour : Tour δ) : Prop :=
  ∀ s, inOrder s.memory → track (step s) = tour s.toTrack ∧ inOrder (memory (step s))

section

variable {inOrder : σ → Prop} {visit : δ → Tour δ} {a b : Walk σ δ Unit} {c c' : Course δ}

theorem follows_pure : Follows inOrder (pure () : Walk σ δ Unit) (Course.done.run visit) :=
  fun _ hs => ⟨rfl, hs⟩

theorem follows_throw (fault : Fault) :
    Follows inOrder (throw fault : Walk σ δ Unit) ((Course.fail fault).run visit) :=
  fun _ hs => ⟨rfl, hs⟩

/-- Notes do not show on the track. -/
theorem follows_note (n : Note) : Follows inOrder (note n) ((Course.done : Course δ).run visit) :=
  fun _ hs => ⟨rfl, hs⟩

theorem Follows.andThen (ha : Follows inOrder a (c.run visit))
    (hb : Follows inOrder b (c'.run visit)) :
    Follows inOrder (a >>= fun _ => b) ((c.andThen c').run visit) := by
  intro s hs
  obtain ⟨ht, hm⟩ := ha s hs
  simp only [bind, EStateM.bind]
  rw [Course.run_andThen, ← ht]
  cases h : a s with
  | ok _ s' => rw [h] at hm; exact hb s' hm
  | error fault s' => rw [h] at hm; exact ⟨rfl, hm⟩

theorem follows_each {step : β → Walk σ δ Unit} {course : β → Course δ}
    (h : ∀ x, Follows inOrder (step x) ((course x).run visit)) (xs : List β) :
    Follows inOrder (each step xs) ((Course.all course xs).run visit) := by
  induction xs with
  | nil => exact follows_pure
  | cons x xs ih => exact (h x).andThen ih

/-- Behind a question comes the course of its answer. -/
theorem follows_consult {look : Lookup σ β} {next : β → Walk σ δ Unit} {course : β → Course δ}
    {m : σ} (steady : look.Steady inOrder) (hm : inOrder m)
    (h : ∀ x, Follows inOrder (next x) ((course x).run visit)) :
    Follows inOrder (consult look >>= next)
      ((Course.after (look.answer m) course).run visit) := by
  intro s hs
  have hl := steady.after hs
  rw [steady.answer_eq hm hs]
  simp only [Lookup.answer, Lookup.after, bind, EStateM.bind, consult] at hl ⊢
  cases h' : look s.memory with
  | ok x m' => rw [h'] at hl; exact h x _ hl
  | error fault m' => rw [h'] at hl; exact ⟨rfl, hl⟩

/-- A call does not show on the track. -/
theorem follows_ask {look : Lookup σ β} {next : β → Walk σ δ Unit} {course : β → Course δ} {m : σ}
    (steady : look.Steady inOrder) (hm : inOrder m) (call : Call)
    (h : ∀ x, Follows inOrder (next x) ((course x).run visit)) :
    Follows inOrder (ask call look >>= next) ((Course.after (look.answer m) course).run visit) :=
  fun s hs => follows_consult steady hm h { s with calls := call :: s.calls } hs

end

section

variable {p : Provider σ δ α ν} {inOrder : σ → Prop} {m : σ} {visit : δ → Tour δ}
  {step : δ → Walk σ δ Unit}

mutual

theorem follows_reference (hv : ∀ d, Follows inOrder (step d) (visit d)) :
    ∀ r : TypeRef δ, Follows inOrder (reference step r) (r.course.run visit)
  | .absent => follows_pure
  | .concrete d => by simpa only [reference, TypeRef.course, Course.run_visit] using hv d
  | .parameterized owner args =>
    (follows_reference hv owner).andThen (follows_referenceList hv args)
  | .wildcard lower upper =>
    (follows_referenceList hv lower).andThen (follows_referenceList hv upper)
  | .array component => follows_reference hv component
  | .unknown why => follows_throw (.unwalkable why)

theorem follows_referenceList (hv : ∀ d, Follows inOrder (step d) (visit d)) :
    ∀ rs : List (TypeRef δ),
      Follows inOrder (references step rs) ((TypeRef.courseList rs).run visit)
  | [] => follows_pure
  | r :: rs => (follows_reference hv r).andThen (follows_referenceList hv rs)

end

theorem follows_references (hv : ∀ d, Follows inOrder (step d) (visit d)) (rs : List (TypeRef δ)) :
    Follows inOrder (references step rs) ((Course.all TypeRef.course rs).run visit) := by
  rw [← TypeRef.courseList_eq_all]
  exact follows_referenceList hv rs

theorem follows_readAttribute (steady : p.Steady inOrder) (hm : inOrder m)
    (a : AnnotationUse δ α) (accessor : String) :
    Follows inOrder (readAttribute p a accessor)
      (((p.answers m).attributeCourse a accessor).run visit) := by
  intro s hs
  have hi : (p.answers m).invoke a accessor = (p.invoke a accessor).answer s.memory :=
    (steady.invoke a accessor).answer_eq hm hs
  have hl := (steady.invoke a accessor).after hs
  simp only [Answers.attributeCourse, hi, Lookup.answer, Lookup.after, readAttribute, ask,
    consult] at hl ⊢
  cases h : p.invoke a accessor s.memory with
  | ok v m' => rw [h] at hl; exact ⟨rfl, hl⟩
  | error fault m' =>
    rw [h] at hl
    cases fault with
    | restricted message =>
      have skips : Follows inOrder (skip p a accessor (.restricted message))
          ((Course.after ((p.answers m).naming a.descriptor) fun _ => Course.done).run visit) :=
        follows_consult (steady.naming _) hm fun _ => follows_note _
      exact skips _ hl
    | _ => exact ⟨rfl, hl⟩

variable (steady : p.Steady inOrder) (hm : inOrder m) (hv : ∀ d, Follows inOrder (step d) (visit d))

include steady hm hv

theorem follows_annotationUse (a : AnnotationUse δ α) :
    Follows inOrder (annotationUse p step a) (((p.answers m).useCourse a).run visit) := by
  have hd : Follows inOrder (step a.descriptor) ((Course.visit a.descriptor).run visit) := by
    rw [Course.run_visit]
    exact hv a.descriptor
  exact hd.andThen (follows_ask (steady.accessors a) hm _ fun names =>
    follows_each (follows_readAttribute steady hm a) names)

theorem follows_annotations (as : List (AnnotationUse δ α)) :
    Follows inOrder (annotations p step as) (((p.answers m).annotationsCourse as).run visit) :=
  follows_each (follows_annotationUse steady hm hv) as

theorem follows_method (d : Method δ α) :
    Follows inOrder (method p step d) (((p.answers m).methodCourse d).run visit) :=
  (follows_reference hv d.returns).andThen <| (follows_references hv d.raises).andThen <|
    (follows_references hv d.parameters).andThen <|
      follows_each (follows_annotations steady hm hv) d.parameterAnnotations

theorem follows_constructor (d : Constructor δ α) :
    Follows inOrder (constructor p step d) (((p.answers m).constructorCourse d).run visit) :=
  (follows_references hv d.raises).andThen <| (follows_references hv d.parameters).andThen <|
    follows_each (follows_annotations steady hm hv) d.parameterAnnotations

theorem follows_field (d : Field δ α) :
    Follows inOrder (field p step d) (((p.answers m).fieldCourse d).run visit) :=
  (follows_reference hv d.type).andThen (follows_annotations steady hm hv d.annotations)

theorem follows_package (own : Option (List (AnnotationUse δ α))) :
    Follows inOrder (package p step own) (((p.answers m).packageCourse own).run visit) := by
  cases own with
  | none => exact follows_pure
  | some own => exact follows_annotations steady hm hv own

theorem follows_members (options : WalkOptions) (d : δ) :
    Follows inOrder (members p options step d) (((p.answers m).course options d).run visit) := by
  have package := follows_ask (steady.packageAnnotations d) hm (.package (p.typeName d))
    (follows_package steady hm hv)
  -- What comes behind the supertype is the same whether or not the supertype is walked.
  have rest := follows_ask (steady.interfaces d) hm (.interfaces (p.typeName d)) fun rs =>
    (follows_references hv rs).andThen <|
      follows_ask (steady.annotations d) hm (.annotations (p.typeName d)) fun as =>
        (follows_annotations steady hm hv as).andThen package
  simp only [members, Answers.course, Course.after_andThen]
  refine follows_ask (steady.methods d) hm _ fun ms => ?_
  refine (follows_each (follows_method steady hm hv) ms).andThen ?_
  refine follows_ask (steady.constructors d) hm _ fun cs => ?_
  refine (follows_each (follows_constructor steady hm hv) cs).andThen ?_
  refine follows_ask (steady.fields d) hm _ fun fs => ?_
  refine (follows_each (follows_field steady hm hv) fs).andThen ?_
  refine follows_ask (steady.supertype d) hm _ fun r => ?_
  cases h : options.traverseSupertype with
  | true =>
    simp only [Answers.supertypeCourse, h, if_true]
    exact (follows_reference hv r).andThen rest
  | false =>
    simp only [Answers.supertypeCourse, h, Bool.false_eq_true, if_false, Course.done_andThen]
    exact rest

omit hv

omit hm in
theorem steady_blame (d : δ) (typeName : Option String) :
    (blame p d typeName).Steady inOrder := by
  cases typeName with
  | none => exact steady.naming d
  | some name =>
    simp only [blame]
    split
    · exact steady.naming d
    · exact .pure name

omit steady hm in
theorem answer_blame (d : δ) (typeName : Option String) :
    (blame p d typeName).answer m = (p.answers m).blame d typeName := by
  cases typeName with
  | none => rfl
  | some name => by_cases h : name = "" <;> simp [blame, Answers.blame, h] <;> rfl

/-- A fault is classified by the answers, and neither marks nor moves change. -/
theorem classify_eq (d : δ) (fault : Fault) {s : WalkState σ δ} (hs : inOrder s.memory) :
    ∃ s' : WalkState σ δ, (classify p d fault s = .ok ((p.answers m).leaving d fault) s' ∨
      classify p d fault s = .error ((p.answers m).leaving d fault) s') ∧
      s'.toTrack = s.toTrack ∧ inOrder s'.memory := by
  cases fault with
  | linkage message typeName =>
    have hb := (steady_blame steady d typeName).answer_eq hm hs
    have ha := (steady_blame steady d typeName).after hs
    rw [answer_blame] at hb
    simp only [Answers.leaving, hb, classify, bind, EStateM.bind, consult, Lookup.answer,
      Lookup.after] at ha ⊢
    cases h : blame p d typeName s.memory with
    | ok name m' => rw [h] at ha; exact ⟨_, .inl rfl, rfl, ha⟩
    | error fault m' => rw [h] at ha; exact ⟨_, .inr rfl, rfl, ha⟩
  | notPresent typeName cause => exact ⟨_, .inl rfl, rfl, hs⟩
  | _ => exact ⟨_, .inl rfl, rfl, hs⟩

variable [DecidableEq δ]

/-- A walk of a type does what the survey of the type does. -/
theorem follows_type (options : WalkOptions) (depth : Nat) (d : δ) :
    Follows inOrder (type p options depth d)
      (survey ((p.answers m).course options) (p.answers m).leaving depth d) := by
  induction depth generalizing d with
  | zero =>
    intro s hs
    simp only [type, survey]
    split
    · exact ⟨rfl, hs⟩
    · exact ⟨rfl, hs⟩
  | succ depth ih =>
    intro s hs
    simp only [type, survey]
    split
    · exact ⟨rfl, hs⟩
    · obtain ⟨ht, hm'⟩ := follows_members steady hm ih options d (enter d s) hs
      simp only [opened]
      rw [show s.toTrack.enter d = (enter d s).toTrack from rfl, ← ht]
      cases h : members p options (type p options depth) d (enter d s) with
      | ok _ s' => rw [h] at hm'; exact ⟨rfl, hm'⟩
      | error fault s' =>
        rw [h] at hm'
        obtain ⟨s'', hc, htrack, hmemory⟩ := classify_eq steady hm d fault hm'
        rcases hc with hc | hc
        · simp [hc, track, memory, rollBack, closing, Track.rollBack, hmemory, ← htrack]
        · simp [hc, track, memory, rollBack, closing, Track.rollBack, hmemory, ← htrack]

end

end Walk

namespace Walker

variable {σ δ α ν : Type}

/-- Where a walk starts. -/
def start (w : Walker δ) : Track δ := { marked := w.marked, moves := [] }

@[simp] theorem marked_start (w : Walker δ) : w.start.marked = w.marked := rfl

/-- Checking succeeds if loading does. -/
theorem failure_eq_ok_none {outcome : Except Fault Unit} :
    failure outcome = .ok none ↔ outcome = .ok () := by
  cases outcome with
  | ok => simp [failure]
  | error fault => cases fault <;> simp [failure]

variable [DecidableEq δ] {p : Provider σ δ α ν} {inOrder : σ → Prop} {m : σ}

/-- The survey of a root from the marks of a walker. -/
def survey (w : Walker δ) (answers : Answers δ α ν) (depth : Nat) (root : TypeRef δ) :
    EStateM.Result Fault (Track δ) Unit :=
  root.course.run (TypeReach.survey (answers.course w.options) answers.leaving depth) w.start

/-- What a report says about types is what the survey comes to. -/
theorem load_cases (steady : p.Steady inOrder) (hm : inOrder m) (w : Walker δ) (depth : Nat)
    (root : TypeRef δ) :
    let r := w.load p depth m root
    let t : Track δ := { marked := r.marked, moves := r.moves.reverse }
    ((r.outcome = .ok () ∧ w.survey (p.answers m) depth root = .ok () t) ∨
      ∃ fault, r.outcome = .error fault ∧ w.survey (p.answers m) depth root = .error fault t) ∧
      inOrder r.memory := by
  obtain ⟨ht, hm'⟩ := Walk.follows_reference (Walk.follows_type steady hm w.options depth) root
    { marked := w.marked, moves := [], notes := [], calls := [], memory := m } hm
  simp only [load, run, survey, start]
  rw [← ht]
  cases hr : Walk.reference (Walk.type p w.options depth) root
      { marked := w.marked, moves := [], notes := [], calls := [], memory := m } with
  | ok _ s =>
    rw [hr] at hm'
    exact ⟨.inl ⟨rfl, by simp [Walk.track, WalkReport.ofState]⟩, hm'⟩
  | error fault s =>
    rw [hr] at hm'
    exact ⟨.inr ⟨fault, rfl, by simp [Walk.track, WalkReport.ofState]⟩, hm'⟩

variable {σ' α' ν' : Type} {q : Provider σ' δ α' ν'} {inOrder' : σ' → Prop} {m' : σ'}
  {a : Answers δ α ν} {b : Answers δ α' ν'}

/-- Courses and names are all that a load takes from the answers of a provider, and the courses only
of what the load can reach: where two providers give the same there, loads come to the same outcome,
marks and moves. -/
theorem load_of_course_on {S : δ → Prop} {root : TypeRef δ} (hp : p.Gives inOrder a)
    (hq : q.Gives inOrder' b) (hm : inOrder m) (hm' : inOrder' m') {w : Walker δ}
    (hroot : ∀ d ∈ root.course.visits, S d)
    (hclosed : ∀ d, S d → ∀ e ∈ (a.course w.options d).visits, S e)
    (hcourse : ∀ d, S d → a.course w.options d = b.course w.options d)
    (hnaming : a.naming = b.naming) (depth : Nat) :
    (w.load p depth m root).outcome = (w.load q depth m' root).outcome ∧
    (w.load p depth m root).marked = (w.load q depth m' root).marked ∧
    (w.load p depth m root).moves = (w.load q depth m' root).moves := by
  have h := (load_cases hp.steady hm w depth root).1
  have h' := (load_cases hq.steady hm' w depth root).1
  rw [hp.answers_eq hm] at h
  rw [hq.answers_eq hm'] at h'
  have hsurvey : w.survey a depth root = w.survey b depth root := by
    rw [survey, survey, ← Answers.leaving_eq_of_naming hnaming]
    exact Course.run_congr (fun d hd => survey_congr hcourse hclosed (hroot d hd)) _
  rw [hsurvey] at h
  have tracks {r : WalkReport σ δ Unit} {r' : WalkReport σ' δ Unit}
      (ht : ({ marked := r.marked, moves := r.moves.reverse } : Track δ) =
        { marked := r'.marked, moves := r'.moves.reverse }) :
      r.marked = r'.marked ∧ r.moves = r'.moves := by
    simpa using ht
  rcases h with ⟨ho, hs⟩ | ⟨fault, ho, hs⟩ <;> rcases h' with ⟨ho', hs'⟩ | ⟨fault', ho', hs'⟩ <;>
    have hsame := hs.symm.trans hs'
  · injection hsame with _ ht
    exact ⟨ho.trans ho'.symm, tracks ht⟩
  · cases hsame
  · cases hsame
  · injection hsame with hf ht
    exact ⟨by rw [ho, ho', hf], tracks ht⟩

/-- Where two providers give the same courses and names, loads come to the same outcome, marks and
moves. -/
theorem load_of_course (hp : p.Gives inOrder a) (hq : q.Gives inOrder' b) (hm : inOrder m)
    (hm' : inOrder' m') {w : Walker δ} (hcourse : ∀ d, a.course w.options d = b.course w.options d)
    (hnaming : a.naming = b.naming) (depth : Nat) (root : TypeRef δ) :
    (w.load p depth m root).outcome = (w.load q depth m' root).outcome ∧
    (w.load p depth m root).marked = (w.load q depth m' root).marked ∧
    (w.load p depth m root).moves = (w.load q depth m' root).moves :=
  load_of_course_on (S := fun _ => True) hp hq hm hm' (fun _ _ => trivial) (fun _ _ _ _ => trivial)
    (fun d _ => hcourse d) hnaming depth

end Walker

end TypeReach
