import Mathlib.Logic.Relation
import TypeReach.Proofs.Course

/-!
# Dependencies

Which types a type depends on, and when all that is asked about it succeeds, said of the answers of
a provider and not of the order in which a walk asks.
-/

namespace TypeReach

namespace TypeRef

variable {δ : Type}

mutual

/-- Every node of a reference is of a known kind. -/
def Known : TypeRef δ → Prop
  | absent => True
  | concrete _ => True
  | parameterized owner args => owner.Known ∧ KnownList args
  | wildcard lower upper => KnownList lower ∧ KnownList upper
  | array component => component.Known
  | unknown _ => False

/-- Every node of several references is of a known kind. -/
def KnownList : List (TypeRef δ) → Prop
  | [] => True
  | r :: rs => r.Known ∧ KnownList rs

end

@[simp] theorem knownList_iff (rs : List (TypeRef δ)) : KnownList rs ↔ ∀ r ∈ rs, r.Known := by
  induction rs with
  | nil => simp [KnownList]
  | cons r rs ih => simp [KnownList, ih]

end TypeRef

section

variable {δ α : Type}

/-- The references in the signature of a method. -/
def Method.references (m : Method δ α) : List (TypeRef δ) :=
  m.returns :: (m.raises ++ m.parameters)

/-- The annotations in the signature of a method. -/
def Method.uses (m : Method δ α) : List (AnnotationUse δ α) :=
  m.parameterAnnotations.flatten

/-- The references in the signature of a constructor. -/
def Constructor.references (c : Constructor δ α) : List (TypeRef δ) :=
  c.raises ++ c.parameters

/-- The annotations in the signature of a constructor. -/
def Constructor.uses (c : Constructor δ α) : List (AnnotationUse δ α) :=
  c.parameterAnnotations.flatten

end

namespace Answers

variable {δ α ν : Type} (answers : Answers δ α ν) (options : WalkOptions) (d : δ)

/-- The references that are walked for a type. -/
inductive Walks : TypeRef δ → Prop
  | method {ms m r} : answers.methods d = .ok ms → m ∈ ms → r ∈ m.references → Walks r
  | constructor {cs c r} : answers.constructors d = .ok cs → c ∈ cs → r ∈ c.references → Walks r
  | field {fs f} : answers.fields d = .ok fs → f ∈ fs → Walks f.type
  | supertype {r} : options.traverseSupertype = true → answers.supertype d = .ok r → Walks r
  | interface {rs r} : answers.interfaces d = .ok rs → r ∈ rs → Walks r

/-- The annotations that are met at a type. -/
inductive Meets : AnnotationUse δ α → Prop
  | method {ms m a} : answers.methods d = .ok ms → m ∈ ms → a ∈ m.uses → Meets a
  | constructor {cs c a} : answers.constructors d = .ok cs → c ∈ cs → a ∈ c.uses → Meets a
  | field {fs f a} : answers.fields d = .ok fs → f ∈ fs → a ∈ f.annotations → Meets a
  | own {as a} : answers.annotations d = .ok as → a ∈ as → Meets a
  | package {as a} : answers.packageAnnotations d = .ok (some as) → a ∈ as → Meets a

/-- A direct dependency: a descriptor in a walked reference, or the type of an annotation. -/
inductive Depends : δ → Prop
  | reference {r e} : answers.Walks options d r → e ∈ r.targets → Depends e
  | attached {a} : answers.Meets d a → Depends a.descriptor

/-- An attribute can be read, or must not be read. -/
def Passes (a : AnnotationUse δ α) (name : String) : Prop :=
  (∃ v, answers.invoke a name = .ok v) ∨
    ∃ message, answers.invoke a name = .error (.restricted message)

/-- Every attribute of an annotation can be read, or must not be read. -/
def Readable (a : AnnotationUse δ α) : Prop :=
  ∃ names, answers.accessors a = .ok names ∧ ∀ name ∈ names, answers.Passes a name

/-- All that a walk asks about a type itself succeeds. -/
structure Sound : Prop where
  methods : ∃ ms, answers.methods d = .ok ms
  constructors : ∃ cs, answers.constructors d = .ok cs
  fields : ∃ fs, answers.fields d = .ok fs
  supertype : ∃ r, answers.supertype d = .ok r
  interfaces : ∃ rs, answers.interfaces d = .ok rs
  annotations : ∃ as, answers.annotations d = .ok as
  packageAnnotations : ∃ own, answers.packageAnnotations d = .ok own
  references : ∀ r, answers.Walks options d r → r.Known
  attributes : ∀ a, answers.Meets d a → answers.Readable a

/-- Every type has a name. -/
def Named : Prop :=
  ∀ d, ∃ name, answers.naming d = .ok name

/-- Dependencies lead from one type to another. -/
def Reaches (d e : δ) : Prop :=
  Relation.ReflTransGen (answers.Depends options) d e

/-- Dependencies lead from one type to another and pass through no marked type. -/
def ReachesOutside (marked : List δ) (d e : δ) : Prop :=
  d ∉ marked ∧ Relation.ReflTransGen (fun x y => answers.Depends options x y ∧ y ∉ marked) d e

/-- With each type, all that it depends on is marked. -/
def Closed (marked : List δ) : Prop :=
  ∀ d ∈ marked, ∀ e, answers.Depends options d e → e ∈ marked

variable {answers options}

theorem Closed.mem_of_reaches {marked : List δ} {d e : δ} (h : answers.Closed options marked)
    (hd : d ∈ marked) (hr : answers.Reaches options d e) : e ∈ marked := by
  induction hr with
  | refl => exact hd
  | tail _ hs ih => exact h _ ih _ hs

theorem ReachesOutside.reaches {marked : List δ} {d e : δ}
    (h : answers.ReachesOutside options marked d e) : answers.Reaches options d e :=
  Relation.ReflTransGen.mono (fun _ _ hs => hs.1) _ _ h.2

theorem ReachesOutside.notMem {marked : List δ} {d e : δ}
    (h : answers.ReachesOutside options marked d e) : e ∉ marked := by
  rcases h.2.cases_tail with rfl | ⟨_, _, hs⟩
  · exact h.1
  · exact hs.2

theorem reachesOutside_nil {d e : δ} :
    answers.ReachesOutside options [] d e ↔ answers.Reaches options d e := by
  simp [ReachesOutside, Reaches]

end Answers

/-- A course stops only if `good` fails, and its visits are the types in `targets` if it does not
stop. That it does not stop when `good` holds may need `named`. -/
structure Course.Covers {δ : Type} (named : Prop) (c : Course δ) (good : Prop)
    (targets : δ → Prop) : Prop where
  stop_eq_none : named → good → c.stop = none
  good : c.stop = none → good
  target : ∀ d ∈ c.visits, targets d
  visited : c.stop = none → ∀ d, targets d → d ∈ c.visits

namespace Course

variable {δ β : Type} {named : Prop} {a b c : Course δ} {g h : Prop} {t u : δ → Prop}

theorem covers_done : Covers named (done : Course δ) True fun _ => False where
  stop_eq_none _ _ := rfl
  good _ := trivial
  target := by simp [done]
  visited _ _ := False.elim

theorem covers_visit (d : δ) : Covers named (visit d) True (· = d) where
  stop_eq_none _ _ := rfl
  good _ := trivial
  target := by simp [visit]
  visited := by simp [visit]

theorem covers_fail (fault : Fault) :
    Covers named (fail fault : Course δ) False fun _ => False where
  stop_eq_none _ := False.elim
  good := by simp [fail]
  target := by simp [fail]
  visited _ _ := False.elim

theorem Covers.congr (hc : Covers named c g t) (hg : g ↔ h) (ht : ∀ d, t d ↔ u d) :
    Covers named c h u where
  stop_eq_none n x := hc.stop_eq_none n (hg.2 x)
  good x := hg.1 (hc.good x)
  target d x := (ht d).1 (hc.target d x)
  visited n d x := hc.visited n d ((ht d).2 x)

theorem Covers.andThen (ha : Covers named a g t) (hb : Covers named b h u) :
    Covers named (a.andThen b) (g ∧ h) fun d => t d ∨ u d := by
  by_cases hs : a.stop = none
  · rw [andThen_of_stop_eq_none hs]
    refine ⟨fun n x => hb.stop_eq_none n x.2, fun x => ⟨ha.good hs, hb.good x⟩, ?_, ?_⟩
    · intro d hd
      rcases List.mem_append.1 hd with hd | hd
      · exact .inl (ha.target d hd)
      · exact .inr (hb.target d hd)
    · rintro n d (hd | hd)
      · exact List.mem_append_left _ (ha.visited hs d hd)
      · exact List.mem_append_right _ (hb.visited n d hd)
  · rw [andThen_of_stop_ne_none hs]
    exact ⟨fun n x => absurd (ha.stop_eq_none n x.1) hs, fun n => absurd n hs,
      fun d hd => .inl (ha.target d hd), fun n => absurd n hs⟩

theorem covers_all {f : β → Course δ} {g : β → Prop} {t : β → δ → Prop}
    (hf : ∀ x, Covers named (f x) (g x) (t x)) (xs : List β) :
    Covers named (all f xs) (∀ x ∈ xs, g x) fun d => ∃ x ∈ xs, t x d := by
  induction xs with
  | nil => exact covers_done.congr (by simp) (by simp)
  | cons x xs ih => exact ((hf x).andThen ih).congr (by simp) (by simp)

theorem covers_after {answer : Except Fault β} {f : β → Course δ} {g : β → Prop}
    {t : β → δ → Prop} (hf : ∀ x, Covers named (f x) (g x) (t x)) :
    Covers named (after answer f) (∃ x, answer = .ok x ∧ g x)
      fun d => ∃ x, answer = .ok x ∧ t x d := by
  cases answer with
  | ok x => exact (hf x).congr (by simp) (by simp)
  | error fault => exact (covers_fail fault).congr (by simp) (by simp)

end Course

namespace TypeRef

variable {δ : Type} {named : Prop}

open Course

mutual

theorem covers_course : ∀ r : TypeRef δ, Covers named r.course r.Known (· ∈ r.targets)
  | absent => covers_done.congr (by simp [Known]) (by simp [targets])
  | concrete d => (covers_visit d).congr (by simp [Known]) (by simp [targets])
  | parameterized owner args => ((covers_course owner).andThen (covers_courseList args)).congr
      (by simp [Known]) (by simp [targets])
  | wildcard lower upper => ((covers_courseList lower).andThen (covers_courseList upper)).congr
      (by simp [Known]) (by simp [targets])
  | array component => (covers_course component).congr (by simp [Known]) (by simp [targets])
  | unknown why => (covers_fail (.unwalkable why)).congr (by simp [Known]) (by simp [targets])

theorem covers_courseList : ∀ rs : List (TypeRef δ),
    Covers named (courseList rs) (∀ r ∈ rs, r.Known) fun d => ∃ r ∈ rs, d ∈ r.targets
  | [] => covers_done.congr (by simp) (by simp)
  | r :: rs => ((covers_course r).andThen (covers_courseList rs)).congr (by simp) (by simp)

end

end TypeRef

namespace Answers

variable {δ α ν : Type} (answers : Answers δ α ν)

open Course

/-- Good references and annotations. -/
def Good (rs : List (TypeRef δ)) (as : List (AnnotationUse δ α)) : Prop :=
  (∀ r ∈ rs, r.Known) ∧ ∀ a ∈ as, answers.Readable a

/-- The types in references and annotations. -/
def Target (rs : List (TypeRef δ)) (as : List (AnnotationUse δ α)) (d : δ) : Prop :=
  (∃ r ∈ rs, d ∈ r.targets) ∨ ∃ a ∈ as, d = a.descriptor

/-- An attribute that must not be read needs the name of its annotation's type. -/
theorem covers_attributeCourse (a : AnnotationUse δ α) (name : String) :
    Covers answers.Named (answers.attributeCourse a name) (answers.Passes a name)
      fun _ => False := by
  unfold attributeCourse Passes
  split
  · next v hv => exact covers_done.congr (by simp [hv]) (by simp)
  · next message hr =>
    refine ⟨fun n _ => ?_, fun _ => .inr ⟨message, hr⟩, ?_, fun _ _ => False.elim⟩
    · obtain ⟨name, hn⟩ := n a.descriptor
      simp [hn, after, done]
    · cases answers.naming a.descriptor <;> simp [after, done, fail]
  · next fault hf hr =>
    refine (covers_fail fault).congr ⟨False.elim, ?_⟩ (by simp)
    rintro (⟨v, hv⟩ | ⟨message, hm⟩)
    · cases hr.symm.trans hv
    · cases hr.symm.trans hm
      exact hf message rfl

theorem covers_useCourse (a : AnnotationUse δ α) :
    Covers answers.Named (answers.useCourse a) (answers.Readable a) (· = a.descriptor) :=
  ((covers_visit a.descriptor).andThen
    (covers_after fun names => covers_all (answers.covers_attributeCourse a) names)).congr
    (by simp [Readable]) (by simp)

theorem covers_annotationsCourse (as : List (AnnotationUse δ α)) :
    Covers answers.Named (answers.annotationsCourse as) (answers.Good [] as)
      (Target [] as) :=
  (covers_all answers.covers_useCourse as).congr (by simp [Good]) (by simp [Target])

theorem covers_parameterAnnotations (ass : List (List (AnnotationUse δ α))) :
    Covers answers.Named (all answers.annotationsCourse ass) (answers.Good [] ass.flatten)
      (Target [] ass.flatten) :=
  (covers_all answers.covers_annotationsCourse ass).congr
    (by simp only [Good, List.mem_flatten]; grind) (by simp only [Target, List.mem_flatten]; grind)

theorem covers_methodCourse (m : Method δ α) :
    Covers answers.Named (answers.methodCourse m) (answers.Good m.references m.uses)
      (Target m.references m.uses) :=
  (m.returns.covers_course.andThen <| (covers_all TypeRef.covers_course m.raises).andThen <|
    (covers_all TypeRef.covers_course m.parameters).andThen <|
      answers.covers_parameterAnnotations m.parameterAnnotations).congr
    (by simp only [Good, Method.references, Method.uses]; grind)
    (by simp only [Target, Method.references, Method.uses]; grind)

theorem covers_constructorCourse (c : Constructor δ α) :
    Covers answers.Named (answers.constructorCourse c) (answers.Good c.references c.uses)
      (Target c.references c.uses) :=
  ((covers_all TypeRef.covers_course c.raises).andThen <|
    (covers_all TypeRef.covers_course c.parameters).andThen <|
      answers.covers_parameterAnnotations c.parameterAnnotations).congr
    (by simp only [Good, Constructor.references, Constructor.uses]; grind)
    (by simp only [Target, Constructor.references, Constructor.uses]; grind)

theorem covers_fieldCourse (f : Field δ α) :
    Covers answers.Named (answers.fieldCourse f) (answers.Good [f.type] f.annotations)
      (Target [f.type] f.annotations) :=
  (f.type.covers_course.andThen (answers.covers_annotationsCourse f.annotations)).congr
    (by simp [Good]) (by simp [Target])

theorem covers_supertypeCourse (options : WalkOptions) (r : TypeRef δ) :
    Covers answers.Named (supertypeCourse options r) (options.traverseSupertype = true → r.Known)
      fun d => options.traverseSupertype = true ∧ d ∈ r.targets := by
  unfold supertypeCourse
  cases options.traverseSupertype with
  | true => exact r.covers_course.congr (by simp) (by simp)
  | false => exact covers_done.congr (by simp) (by simp)

theorem covers_packageCourse (own : Option (List (AnnotationUse δ α))) :
    Covers answers.Named (answers.packageCourse own)
      (∀ as, own = some as → answers.Good [] as)
      fun d => ∃ as, own = some as ∧ Target [] as d := by
  cases own with
  | none => exact covers_done.congr (by simp) (by simp)
  | some as => exact (answers.covers_annotationsCourse as).congr (by simp) (by simp)

variable (options : WalkOptions) (d : δ)

/-- A type is sound if each of its look-ups succeeds with good references and annotations. -/
theorem sound_iff : answers.Sound options d ↔
    (∃ ms, answers.methods d = .ok ms ∧ ∀ m ∈ ms, answers.Good m.references m.uses) ∧
    (∃ cs, answers.constructors d = .ok cs ∧ ∀ c ∈ cs, answers.Good c.references c.uses) ∧
    (∃ fs, answers.fields d = .ok fs ∧ ∀ f ∈ fs, answers.Good [f.type] f.annotations) ∧
    (∃ r, answers.supertype d = .ok r ∧ (options.traverseSupertype = true → r.Known)) ∧
    (∃ rs, answers.interfaces d = .ok rs ∧ ∀ r ∈ rs, r.Known) ∧
    (∃ as, answers.annotations d = .ok as ∧ answers.Good [] as) ∧
    ∃ own, answers.packageAnnotations d = .ok own ∧ ∀ as, own = some as → answers.Good [] as := by
  constructor
  · intro h
    obtain ⟨ms, hms⟩ := h.methods
    obtain ⟨cs, hcs⟩ := h.constructors
    obtain ⟨fs, hfs⟩ := h.fields
    obtain ⟨r, hr⟩ := h.supertype
    obtain ⟨rs, hrs⟩ := h.interfaces
    obtain ⟨as, has⟩ := h.annotations
    obtain ⟨own, hown⟩ := h.packageAnnotations
    refine ⟨⟨ms, hms, fun m hm => ⟨?_, ?_⟩⟩, ⟨cs, hcs, fun c hc => ⟨?_, ?_⟩⟩,
      ⟨fs, hfs, fun f hf => ⟨?_, ?_⟩⟩, ⟨r, hr, ?_⟩, ⟨rs, hrs, ?_⟩, ⟨as, has, ?_⟩, ⟨own, hown, ?_⟩⟩
    · exact fun r hr => h.references r (.method hms hm hr)
    · exact fun a ha => h.attributes a (.method hms hm ha)
    · exact fun r hr => h.references r (.constructor hcs hc hr)
    · exact fun a ha => h.attributes a (.constructor hcs hc ha)
    · simpa using h.references _ (.field hfs hf)
    · exact fun a ha => h.attributes a (.field hfs hf ha)
    · exact fun ho => h.references r (.supertype ho hr)
    · exact fun x hx => h.references x (.interface hrs hx)
    · exact ⟨by simp, fun a ha => h.attributes a (.own has ha)⟩
    · rintro as rfl
      exact ⟨by simp, fun a ha => h.attributes a (.package hown ha)⟩
  · rintro ⟨⟨ms, hms, gm⟩, ⟨cs, hcs, gc⟩, ⟨fs, hfs, gf⟩, ⟨r, hr, gr⟩, ⟨rs, hrs, gi⟩, ⟨as, has, ga⟩,
      ⟨own, hown, gp⟩⟩
    refine ⟨⟨ms, hms⟩, ⟨cs, hcs⟩, ⟨fs, hfs⟩, ⟨r, hr⟩, ⟨rs, hrs⟩, ⟨as, has⟩, ⟨own, hown⟩, ?_, ?_⟩
    · intro x hx
      cases hx with
      | method h hm hx => cases hms.symm.trans h; exact (gm _ hm).1 x hx
      | constructor h hc hx => cases hcs.symm.trans h; exact (gc _ hc).1 x hx
      | field h hf => cases hfs.symm.trans h; exact (gf _ hf).1 _ (by simp)
      | supertype ho h => cases hr.symm.trans h; exact gr ho
      | interface h hx => cases hrs.symm.trans h; exact gi x hx
    · intro a ha
      cases ha with
      | method h hm ha => cases hms.symm.trans h; exact (gm _ hm).2 a ha
      | constructor h hc ha => cases hcs.symm.trans h; exact (gc _ hc).2 a ha
      | field h hf ha => cases hfs.symm.trans h; exact (gf _ hf).2 a ha
      | own h ha => cases has.symm.trans h; exact ga.2 a ha
      | package h ha => cases hown.symm.trans h; exact (gp _ rfl).2 a ha

/-- What a type depends on, look-up by look-up. -/
theorem depends_iff (e : δ) : answers.Depends options d e ↔
    (∃ ms, answers.methods d = .ok ms ∧ ∃ m ∈ ms, Target m.references m.uses e) ∨
    (∃ cs, answers.constructors d = .ok cs ∧ ∃ c ∈ cs, Target c.references c.uses e) ∨
    (∃ fs, answers.fields d = .ok fs ∧ ∃ f ∈ fs, Target [f.type] f.annotations e) ∨
    (∃ r, answers.supertype d = .ok r ∧ options.traverseSupertype = true ∧ e ∈ r.targets) ∨
    (∃ rs, answers.interfaces d = .ok rs ∧ ∃ r ∈ rs, e ∈ r.targets) ∨
    (∃ as, answers.annotations d = .ok as ∧ Target [] as e) ∨
    ∃ own, answers.packageAnnotations d = .ok own ∧
      ∃ as, own = some as ∧ Target [] as e := by
  constructor
  · rintro (⟨hw, ht⟩ | ha)
    · cases hw with
      | method h hm hx => exact .inl ⟨_, h, _, hm, .inl ⟨_, hx, ht⟩⟩
      | constructor h hc hx => exact .inr (.inl ⟨_, h, _, hc, .inl ⟨_, hx, ht⟩⟩)
      | field h hf => exact .inr (.inr (.inl ⟨_, h, _, hf, .inl ⟨_, by simp, ht⟩⟩))
      | supertype ho h => exact .inr (.inr (.inr (.inl ⟨_, h, ho, ht⟩)))
      | interface h hx => exact .inr (.inr (.inr (.inr (.inl ⟨_, h, _, hx, ht⟩))))
    · cases ha with
      | method h hm ha => exact .inl ⟨_, h, _, hm, .inr ⟨_, ha, rfl⟩⟩
      | constructor h hc ha => exact .inr (.inl ⟨_, h, _, hc, .inr ⟨_, ha, rfl⟩⟩)
      | field h hf ha => exact .inr (.inr (.inl ⟨_, h, _, hf, .inr ⟨_, ha, rfl⟩⟩))
      | own h ha => exact .inr (.inr (.inr (.inr (.inr (.inl ⟨_, h, .inr ⟨_, ha, rfl⟩⟩)))))
      | package h ha =>
        exact .inr (.inr (.inr (.inr (.inr (.inr ⟨_, h, _, rfl, .inr ⟨_, ha, rfl⟩⟩)))))
  · rintro (⟨ms, hms, m, hm, ⟨x, hx, h⟩ | ⟨a, ha, rfl⟩⟩ |
      ⟨cs, hcs, c, hc, ⟨x, hx, h⟩ | ⟨a, ha, rfl⟩⟩ | ⟨fs, hfs, f, hf, ⟨x, hx, h⟩ | ⟨a, ha, rfl⟩⟩ |
      ⟨r, hr, ho, h⟩ | ⟨rs, hrs, x, hx, h⟩ | ⟨as, has, ⟨x, hx, h⟩ | ⟨a, ha, rfl⟩⟩ |
      ⟨own, hown, as, rfl, ⟨x, hx, h⟩ | ⟨a, ha, rfl⟩⟩)
    · exact .reference (.method hms hm hx) h
    · exact .attached (.method hms hm ha)
    · exact .reference (.constructor hcs hc hx) h
    · exact .attached (.constructor hcs hc ha)
    · cases List.mem_singleton.1 hx
      exact .reference (.field hfs hf) h
    · exact .attached (.field hfs hf ha)
    · exact .reference (.supertype ho hr) h
    · exact .reference (.interface hrs hx) h
    · simp at hx
    · exact .attached (.own has ha)
    · simp at hx
    · exact .attached (.package hown ha)

/-- The course of a type stops unless the type is sound, and visits what the type depends on. -/
theorem covers_course : Covers answers.Named (answers.course options d)
    (answers.Sound options d) (answers.Depends options d) :=
  ((covers_after (covers_all answers.covers_methodCourse)).andThen <|
    (covers_after (covers_all answers.covers_constructorCourse)).andThen <|
    (covers_after (covers_all answers.covers_fieldCourse)).andThen <|
    (covers_after (answers.covers_supertypeCourse options)).andThen <|
    (covers_after (covers_all TypeRef.covers_course)).andThen <|
    (covers_after answers.covers_annotationsCourse).andThen <|
    covers_after answers.covers_packageCourse).congr
    (answers.sound_iff options d).symm fun e => (answers.depends_iff options d e).symm

variable {answers options d} {e : δ}

theorem depends_of_mem_visits (h : e ∈ (answers.course options d).visits) :
    answers.Depends options d e :=
  (answers.covers_course options d).target e h

theorem sound_of_stop_eq_none (h : (answers.course options d).stop = none) :
    answers.Sound options d :=
  (answers.covers_course options d).good h

theorem not_sound_of_stop_ne_none (named : answers.Named)
    (h : (answers.course options d).stop ≠ none) : ¬ answers.Sound options d :=
  fun hs => h ((answers.covers_course options d).stop_eq_none named hs)

/-- The course of a type that does not stop visits all that the type depends on. -/
theorem mem_visits_of_depends (h : (answers.course options d).stop = none)
    (he : answers.Depends options d e) : e ∈ (answers.course options d).visits :=
  (answers.covers_course options d).visited h e he

end Answers

end TypeReach
