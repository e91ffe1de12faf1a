import TypeReach.Proofs.Answers
import TypeReach.Walk.Basic

/-!
# Courses

Once all questions are answered, what is left of a step of a walk is its course: the types that it
visits, in order, and the fault that it stops with when these visits succeed.
-/

namespace TypeReach

/-- The types that a step visits, in order, and the fault that it stops with behind them, if any. -/
structure Course (δ : Type) where
  visits : List δ
  stop : Option Fault
  deriving DecidableEq

namespace Course

variable {δ β γ : Type}

/-- The course without visits. -/
def done : Course δ := ⟨[], none⟩

/-- The course that visits one type. -/
def visit (d : δ) : Course δ := ⟨[d], none⟩

/-- The course that stops at once. -/
def fail (fault : Fault) : Course δ := ⟨[], some fault⟩

/-- One course and, unless it stops, another one behind it. -/
def andThen (a b : Course δ) : Course δ :=
  match a.stop with
  | none => ⟨a.visits ++ b.visits, b.stop⟩
  | some _ => a

/-- The courses of several items, one behind the other. -/
def all (f : β → Course δ) : List β → Course δ
  | [] => done
  | b :: bs => (f b).andThen (all f bs)

/-- The course behind a question. -/
def after (answer : Except Fault β) (next : β → Course δ) : Course δ :=
  match answer with
  | .ok b => next b
  | .error fault => fail fault

theorem andThen_of_stop_eq_none {a : Course δ} (h : a.stop = none) (b : Course δ) :
    a.andThen b = ⟨a.visits ++ b.visits, b.stop⟩ := by
  simp [andThen, h]

theorem andThen_of_stop_ne_none {a : Course δ} (h : a.stop ≠ none) (b : Course δ) :
    a.andThen b = a := by
  cases hs : a.stop with
  | none => exact absurd hs h
  | some fault => simp [andThen, hs]

@[simp] theorem done_andThen (b : Course δ) : done.andThen b = b := rfl

theorem andThen_assoc (a b c : Course δ) :
    (a.andThen b).andThen c = a.andThen (b.andThen c) := by
  cases ha : a.stop with
  | some fault => simp [andThen, ha]
  | none => cases hb : b.stop <;> simp [andThen, ha, hb]

@[simp] theorem andThen_done (a : Course δ) : a.andThen done = a := by
  obtain ⟨visits, stop⟩ := a
  cases stop <;> simp [andThen, done]

@[simp] theorem fail_andThen (fault : Fault) (b : Course δ) : (fail fault).andThen b = fail fault :=
  rfl

@[simp] theorem all_nil (f : β → Course δ) : all f [] = done := rfl

@[simp] theorem all_cons (f : β → Course δ) (b : β) (bs : List β) :
    all f (b :: bs) = (f b).andThen (all f bs) := rfl

theorem all_append (f : β → Course δ) (as bs : List β) :
    all f (as ++ bs) = (all f as).andThen (all f bs) := by
  induction as with
  | nil => rfl
  | cons a as ih => rw [List.cons_append, all_cons, ih, all_cons, andThen_assoc]

/-- The course along what is made of several items is that along the items, if it is for each. -/
theorem all_flatMap {f : β → Course δ} {g : γ → List β} {h : γ → Course δ} {cs : List γ}
    (hg : ∀ c ∈ cs, h c = all f (g c)) : all h cs = all f (cs.flatMap g) := by
  induction cs with
  | nil => rfl
  | cons c cs ih =>
    rw [List.flatMap_cons, all_append, all_cons, hg c (by simp),
      ih fun x hx => hg x (List.mem_cons_of_mem c hx)]

theorem all_congr {f g : β → Course δ} {bs : List β} (h : ∀ b ∈ bs, f b = g b) :
    all f bs = all g bs := by
  induction bs with
  | nil => rfl
  | cons b bs ih =>
    rw [all_cons, all_cons, h b (by simp), ih fun x hx => h x (List.mem_cons_of_mem b hx)]

theorem all_map (f : β → Course δ) (g : γ → β) (cs : List γ) :
    all f (cs.map g) = all (fun c => f (g c)) cs := by
  induction cs with
  | nil => rfl
  | cons c cs ih => rw [List.map_cons, all_cons, all_cons, ih]

theorem after_andThen (answer : Except Fault β) (next : β → Course δ) (b : Course δ) :
    (after answer next).andThen b = after answer fun x => (next x).andThen b := by
  cases answer <;> rfl

end Course

namespace TypeRef

variable {δ : Type}

open Course

mutual

/-- The course along a reference. -/
def course : TypeRef δ → Course δ
  | absent => done
  | concrete d => visit d
  | parameterized owner args => owner.course.andThen (courseList args)
  | wildcard lower upper => (courseList lower).andThen (courseList upper)
  | array component => component.course
  | unknown why => fail (.unwalkable why)

/-- The course along several references. -/
def courseList : List (TypeRef δ) → Course δ
  | [] => done
  | r :: rs => r.course.andThen (courseList rs)

end

@[simp] theorem courseList_eq_all (rs : List (TypeRef δ)) :
    courseList rs = all TypeRef.course rs := by
  induction rs with
  | nil => rfl
  | cons r rs ih => simp [courseList, all, ih]

end TypeRef

namespace Answers

variable {δ α ν : Type} (answers : Answers δ α ν)

open Course

/-- The course of reading an attribute: one that must not be read is passed over, once the type of
its annotation is named. -/
def attributeCourse (a : AnnotationUse δ α) (accessor : String) : Course δ :=
  match answers.invoke a accessor with
  | .ok _ => done
  | .error (.restricted _) => after (answers.naming a.descriptor) fun _ => done
  | .error fault => fail fault

/-- The course of an annotation. -/
def useCourse (a : AnnotationUse δ α) : Course δ :=
  (visit a.descriptor).andThen (after (answers.accessors a) (all (answers.attributeCourse a)))

/-- The course of several annotations. -/
def annotationsCourse (as : List (AnnotationUse δ α)) : Course δ :=
  all answers.useCourse as

/-- The course of a method. -/
def methodCourse (m : Method δ α) : Course δ :=
  m.returns.course.andThen <| (all TypeRef.course m.raises).andThen <|
    (all TypeRef.course m.parameters).andThen (all answers.annotationsCourse m.parameterAnnotations)

/-- The course of a constructor. -/
def constructorCourse (c : Constructor δ α) : Course δ :=
  (all TypeRef.course c.raises).andThen <| (all TypeRef.course c.parameters).andThen
    (all answers.annotationsCourse c.parameterAnnotations)

/-- The course of a field. -/
def fieldCourse (f : Field δ α) : Course δ :=
  f.type.course.andThen (answers.annotationsCourse f.annotations)

/-- The course of a supertype, which may be looked up only. -/
def supertypeCourse (options : WalkOptions) (r : TypeRef δ) : Course δ :=
  if options.traverseSupertype then r.course else done

/-- The course of the annotations of a package, if there is one. -/
def packageCourse : Option (List (AnnotationUse δ α)) → Course δ
  | none => done
  | some as => answers.annotationsCourse as

/-- The course of all that a type declares. -/
def course (options : WalkOptions) (d : δ) : Course δ :=
  (after (answers.methods d) (all answers.methodCourse)).andThen <|
  (after (answers.constructors d) (all answers.constructorCourse)).andThen <|
  (after (answers.fields d) (all answers.fieldCourse)).andThen <|
  (after (answers.supertype d) (supertypeCourse options)).andThen <|
  (after (answers.interfaces d) (all TypeRef.course)).andThen <|
  (after (answers.annotations d) answers.annotationsCourse).andThen <|
  after (answers.packageAnnotations d) answers.packageCourse

/-- What is said of a type and of annotations makes up the course of the type. -/
theorem course_congr {a b : Answers δ α ν} {d : δ} (options : WalkOptions)
    (accessors : a.accessors = b.accessors) (invoke : a.invoke = b.invoke)
    (naming : a.naming = b.naming) (methods : a.methods d = b.methods d)
    (constructors : a.constructors d = b.constructors d)
    (fields : a.fields d = b.fields d) (supertype : a.supertype d = b.supertype d)
    (interfaces : a.interfaces d = b.interfaces d) (annotations : a.annotations d = b.annotations d)
    (package : a.packageAnnotations d = b.packageAnnotations d) :
    a.course options d = b.course options d := by
  have attributes : a.attributeCourse = b.attributeCourse := by
    funext use name
    simp only [attributeCourse, invoke, naming]
  have use : a.useCourse = b.useCourse := by
    funext use
    simp only [useCourse, accessors, attributes]
  have uses : a.annotationsCourse = b.annotationsCourse := by
    funext uses
    simp only [annotationsCourse, use]
  have method : a.methodCourse = b.methodCourse := by
    funext m
    simp only [methodCourse, uses]
  have constructor : a.constructorCourse = b.constructorCourse := by
    funext c
    simp only [constructorCourse, uses]
  have field : a.fieldCourse = b.fieldCourse := by
    funext f
    simp only [fieldCourse, uses]
  have own : a.packageCourse = b.packageCourse := by
    funext own
    cases own with
    | none => rfl
    | some as => simp only [packageCourse, uses]
  simp only [course, methods, constructors, fields, supertype, interfaces, annotations, package,
    uses, method, constructor, field, own]

/-- The course of a type that declares nothing. -/
theorem course_eq_done {a : Answers δ α ν} {d : δ} (options : WalkOptions)
    (methods : a.methods d = .ok []) (constructors : a.constructors d = .ok [])
    (fields : a.fields d = .ok []) (supertype : a.supertype d = .ok .absent)
    (interfaces : a.interfaces d = .ok []) (annotations : a.annotations d = .ok [])
    (package : a.packageAnnotations d = .ok none) :
    a.course options d = .done := by
  simp [course, methods, constructors, fields, supertype, interfaces, annotations, package,
    after, supertypeCourse, TypeRef.course, annotationsCourse, packageCourse]

/-- The name that a failure to load is reported under while `d` is the innermost open type. -/
def blame (d : δ) : Option String → Except Fault String
  | none => answers.naming d
  | some name => if name = "" then answers.naming d else .ok name

/-- The fault that leaves `d` for one met while `d` is the innermost open type. -/
def leaving (d : δ) : Fault → Fault
  | .linkage message typeName =>
    match answers.blame d typeName with
    | .ok name => .unresolved (some name) (some (.linkage message typeName))
    | .error fault => fault
  | .notPresent typeName cause => .unresolved typeName (some (.notPresent typeName cause))
  | fault => fault

/-- Faults are classified by names alone. -/
theorem leaving_eq_of_naming {α' ν' : Type} {a : Answers δ α ν} {b : Answers δ α' ν'}
    (h : a.naming = b.naming) : a.leaving = b.leaving := by
  have hblame : a.blame = b.blame := by
    funext d typeName
    cases typeName <;> simp only [blame, h]
  funext d fault
  cases fault <;> simp only [leaving, hblame]

end Answers

end TypeReach
