import TypeReach.Proofs.GraphAnswers
import TypeReach.Proofs.Related

/-!
# Depth of a walk

A walk that does not run out of depth has the same result with more of it. No course of an
environment runs out of depth by itself, so a survey that is deep enough for all the types it may
open never does, and from there on the depth does not matter.
-/

namespace TypeReach

namespace Walk

variable {σ δ α ν β γ : Type}

/-- A step has the same result as another one unless that one runs out of depth. -/
def Extends (a b : Walk σ δ β) : Prop :=
  ∀ s, (∀ t, a s ≠ .error .nestedTooDeep t) → b s = a s

theorem Extends.refl (a : Walk σ δ β) : Extends a a :=
  fun _ _ => rfl

theorem Extends.trans {a b c : Walk σ δ β} (h : Extends a b) (h' : Extends b c) : Extends a c := by
  intro s hs
  have hb : b s = a s := h s hs
  exact (h' s (hb ▸ hs)).trans hb

theorem Extends.bind {a b : Walk σ δ β} {f g : β → Walk σ δ γ} (h : Extends a b)
    (hf : ∀ x, Extends (f x) (g x)) : Extends (a >>= f) (b >>= g) := by
  intro s hs
  simp only [Bind.bind, EStateM.bind] at hs ⊢
  have ha : b s = a s := h s fun t ht => hs t (by rw [ht])
  rw [ha]
  cases hr : a s with
  | ok x t =>
    rw [hr] at hs
    exact hf x t hs
  | error fault t => rfl

theorem relating_extends (p : Provider σ δ α ν) (d : δ) : Relating p p d Extends where
  pure b := .refl (Pure.pure b)
  bind := Extends.bind
  stop _ := .refl _
  methods := .refl _
  constructors := .refl _
  fields := .refl _
  supertype := .refl _
  interfaces := .refl _
  annotations := .refl _
  package := .refl _
  accessors _ := .refl _
  reads _ _ := .refl _

variable [DecidableEq δ] {p : Provider σ δ α ν}

/-- A type that is opened and runs out of depth leaves its fault as it is. -/
theorem Extends.opened {a b : Walk σ δ Unit} (h : Extends a b) (d : δ) :
    Extends (opened p d a) (opened p d b) := by
  intro s hs
  have hab : b (enter d s) = a (enter d s) := by
    refine h _ fun t ht => hs (rollBack p d t) ?_
    simp only [Walk.opened, ht]
    rfl
  simp only [Walk.opened, hab]

theorem extends_type_succ (options : WalkOptions) (depth : Nat) (d : δ) :
    Extends (type p options depth d) (type p options (depth + 1) d) := by
  induction depth generalizing d with
  | zero =>
    intro s hs
    by_cases hd : d ∈ s.marked
    · simp only [type, hd, if_true]
    · exact absurd (by simp only [type, hd, if_false]) (hs s)
  | succ depth ih =>
    intro s hs
    by_cases hd : d ∈ s.marked
    · simp only [type, hd, if_true]
    · have hm : Extends (members p options (type p options depth) d)
          (members p options (type p options (depth + 1)) d) :=
        (relating_extends p d).members ih options
      rw [type] at hs ⊢
      rw [type]
      simp only [hd, if_false] at hs ⊢
      exact hm.opened d s hs

theorem extends_type (options : WalkOptions) {depth depth' : Nat} (h : depth ≤ depth') (d : δ) :
    Extends (type p options depth d) (type p options depth' d) := by
  induction h with
  | refl => exact .refl _
  | step _ ih => exact ih.trans (extends_type_succ options _ d)

end Walk

section

variable {β γ δ : Type} {Q : Fault → Prop}

/-- An answer is no fault but one of a kind. -/
def FailsIn (Q : Fault → Prop) (answer : Except Fault β) : Prop :=
  ∀ fault, answer = .error fault → Q fault

namespace FailsIn

theorem ok (b : β) : FailsIn Q (.ok b) := by
  rintro fault ⟨⟩

theorem error {fault : Fault} (h : Q fault) : FailsIn Q (.error fault : Except Fault β) := by
  rintro _ ⟨⟩
  exact h

theorem bind {a : Except Fault β} {f : β → Except Fault γ} (ha : FailsIn Q a)
    (hf : ∀ b, FailsIn Q (f b)) : FailsIn Q (a >>= f) := by
  cases a with
  | error fault => exact error (ha fault rfl)
  | ok b => exact hf b

theorem mapM {f : β → Except Fault γ} (hf : ∀ b, FailsIn Q (f b)) (bs : List β) :
    FailsIn Q (bs.mapM f) := by
  intro fault h
  obtain ⟨b, -, hb⟩ := exists_of_mapM_eq_error h
  exact hf b fault hb

end FailsIn

namespace Course

/-- A course stops with no fault but one of a kind. -/
def StopsIn (Q : Fault → Prop) (c : Course δ) : Prop :=
  ∀ fault, c.stop = some fault → Q fault

namespace StopsIn

theorem done : StopsIn Q (Course.done : Course δ) := by
  rintro fault ⟨⟩

theorem visit (d : δ) : StopsIn Q (Course.visit d) := by
  rintro fault ⟨⟩

theorem fail {fault : Fault} (h : Q fault) : StopsIn Q (Course.fail fault : Course δ) := by
  rintro _ ⟨⟩
  exact h

theorem andThen {a b : Course δ} (ha : StopsIn Q a) (hb : StopsIn Q b) : StopsIn Q (a.andThen b) := by
  cases h : a.stop with
  | none =>
    rw [andThen_of_stop_eq_none h]
    exact hb
  | some fault =>
    rw [andThen_of_stop_ne_none (by simp [h])]
    exact ha

theorem all {f : β → Course δ} (hf : ∀ b, StopsIn Q (f b)) (bs : List β) :
    StopsIn Q (Course.all f bs) := by
  induction bs with
  | nil => exact done
  | cons b bs ih => exact (hf b).andThen ih

theorem after {answer : Except Fault β} {next : β → Course δ} (ha : FailsIn Q answer)
    (hn : ∀ b, StopsIn Q (next b)) : StopsIn Q (Course.after answer next) := by
  cases answer with
  | error fault => exact fail (ha fault rfl)
  | ok b => exact hn b

end StopsIn

end Course

mutual

theorem stopsIn_reference (hq : ∀ why, Q (.unwalkable why)) :
    ∀ r : TypeRef δ, r.course.StopsIn Q
  | .absent => .done
  | .concrete d => .visit d
  | .parameterized owner args =>
    (stopsIn_reference hq owner).andThen (stopsIn_referenceList hq args)
  | .wildcard lower upper =>
    (stopsIn_referenceList hq lower).andThen (stopsIn_referenceList hq upper)
  | .array component => stopsIn_reference hq component
  | .unknown why => .fail (hq why)

theorem stopsIn_referenceList (hq : ∀ why, Q (.unwalkable why)) :
    ∀ rs : List (TypeRef δ), (TypeRef.courseList rs).StopsIn Q
  | [] => .done
  | r :: rs => (stopsIn_reference hq r).andThen (stopsIn_referenceList hq rs)

end

end

namespace Answers

variable {δ α ν : Type} {answers : Answers δ α ν} {Q : Fault → Prop}

/-- Every fault among the answers is of a kind, and so is a stop at a node that cannot be walked. -/
structure FaultsIn (answers : Answers δ α ν) (Q : Fault → Prop) : Prop where
  methods : ∀ d, FailsIn Q (answers.methods d)
  constructors : ∀ d, FailsIn Q (answers.constructors d)
  fields : ∀ d, FailsIn Q (answers.fields d)
  supertype : ∀ d, FailsIn Q (answers.supertype d)
  interfaces : ∀ d, FailsIn Q (answers.interfaces d)
  annotations : ∀ d, FailsIn Q (answers.annotations d)
  packageAnnotations : ∀ d, FailsIn Q (answers.packageAnnotations d)
  accessors : ∀ a, FailsIn Q (answers.accessors a)
  invoke : ∀ a accessor, FailsIn Q (answers.invoke a accessor)
  naming : ∀ d, FailsIn Q (answers.naming d)
  unwalkable : ∀ why, Q (.unwalkable why)

namespace FaultsIn

variable (h : answers.FaultsIn Q)

include h

theorem attributeCourse (a : AnnotationUse δ α) (accessor : String) :
    (answers.attributeCourse a accessor).StopsIn Q := by
  have hi := h.invoke a accessor
  unfold Answers.attributeCourse
  split
  · exact .done
  · exact .after (h.naming a.descriptor) fun _ => .done
  · next hfault => exact .fail (hi _ hfault)

theorem useCourse (a : AnnotationUse δ α) : (answers.useCourse a).StopsIn Q :=
  .andThen (.visit a.descriptor) (.after (h.accessors a) (.all (h.attributeCourse a)))

theorem annotationsCourse (as : List (AnnotationUse δ α)) :
    (answers.annotationsCourse as).StopsIn Q :=
  .all h.useCourse as

theorem referencesCourse (rs : List (TypeRef δ)) : (Course.all TypeRef.course rs).StopsIn Q :=
  .all (stopsIn_reference h.unwalkable) rs

theorem methodCourse (m : Method δ α) : (answers.methodCourse m).StopsIn Q :=
  (stopsIn_reference h.unwalkable m.returns).andThen <| (h.referencesCourse m.raises).andThen <|
    (h.referencesCourse m.parameters).andThen (.all h.annotationsCourse m.parameterAnnotations)

theorem constructorCourse (c : Constructor δ α) : (answers.constructorCourse c).StopsIn Q :=
  (h.referencesCourse c.raises).andThen <| (h.referencesCourse c.parameters).andThen
    (.all h.annotationsCourse c.parameterAnnotations)

theorem fieldCourse (f : Field δ α) : (answers.fieldCourse f).StopsIn Q :=
  (stopsIn_reference h.unwalkable f.type).andThen (h.annotationsCourse f.annotations)

theorem supertypeCourse (options : WalkOptions) (r : TypeRef δ) :
    (Answers.supertypeCourse options r).StopsIn Q := by
  unfold Answers.supertypeCourse
  split
  · exact stopsIn_reference h.unwalkable r
  · exact .done

theorem packageCourse (own : Option (List (AnnotationUse δ α))) :
    (answers.packageCourse own).StopsIn Q := by
  cases own with
  | none => exact .done
  | some as => exact h.annotationsCourse as

/-- The course of a type stops with no fault but one among the answers. -/
theorem course (options : WalkOptions) (d : δ) : (answers.course options d).StopsIn Q :=
  .andThen (.after (h.methods d) (.all h.methodCourse)) <|
  .andThen (.after (h.constructors d) (.all h.constructorCourse)) <|
  .andThen (.after (h.fields d) (.all h.fieldCourse)) <|
  .andThen (.after (h.supertype d) (h.supertypeCourse options)) <|
  .andThen (.after (h.interfaces d) h.referencesCourse) <|
  .andThen (.after (h.annotations d) h.annotationsCourse) <|
  .after (h.packageAnnotations d) h.packageCourse

end FaultsIn

/-- No type is left for want of depth but one that was met with it. -/
theorem leaving_ne_nestedTooDeep (h : answers.FaultsIn (· ≠ .nestedTooDeep)) {d : δ} {fault : Fault}
    (hf : fault ≠ .nestedTooDeep) : answers.leaving d fault ≠ .nestedTooDeep := by
  cases fault with
  | linkage message typeName =>
    have hb : FailsIn (· ≠ .nestedTooDeep) (answers.blame d typeName) := by
      cases typeName with
      | none => exact h.naming d
      | some name =>
        simp only [blame]
        split
        · exact h.naming d
        · exact .ok name
    simp only [leaving]
    cases hn : answers.blame d typeName with
    | ok name => simp
    | error fault => exact hb fault hn
  | nestedTooDeep => exact absurd rfl hf
  | _ => simp [leaving]

end Answers

section

variable {δ : Type} [DecidableEq δ] {course : δ → Course δ} {leaving : δ → Fault → Fault} {n : Nat}
  {d : δ} {s : Track δ}

/-- A survey that is deep enough for all that it may open does not run out of depth. -/
theorem survey_ne_nestedTooDeep (stops : ∀ d, (course d).StopsIn (· ≠ .nestedTooDeep))
    (leaves : ∀ d fault, fault ≠ .nestedTooDeep → leaving d fault ≠ .nestedTooDeep)
    (deep : Deep course n s.marked d) (t : Track δ) :
    survey course leaving n d s ≠ .error .nestedTooDeep t := by
  induction n generalizing d s t with
  | zero => exact absurd deep.pos (by simp)
  | succ n ih =>
    by_cases hd : d ∈ s.marked
    · rw [survey_of_mem hd]
      simp
    -- The marks only grow from visit to visit, so what is deep enough stays so.
    have visits (ds : List δ) (s : Track δ) (hds : ∀ y ∈ ds, Deep course n s.marked y)
        (t : Track δ) : visitAll (survey course leaving n) ds s ≠ .error .nestedTooDeep t := by
      induction ds generalizing s with
      | nil => simp [visitAll]
      | cons y ds ihds =>
        have hends := ends_survey course leaving n y s
        rw [visitAll]
        cases hr : survey course leaving n y s with
        | error fault u =>
          intro h
          cases h
          exact ih (hds y (by simp)) t hr
        | ok _ u =>
          rw [hr] at hends
          obtain ⟨⟨kept, hk⟩, -⟩ := hends
          rw [onward_ok]
          exact ihds u fun z hz => (hds z (List.mem_cons_of_mem y hz)).mono fun _ => hk.mem_of_mem
    have hv := visits (course d).visits (s.enter d) fun y hy => deep.enter hd hy
    rw [survey_succ_of_notMem hd, Course.run]
    cases hr : visitAll (survey course leaving n) (course d).visits (s.enter d) with
    | error fault u =>
      have hf : fault ≠ .nestedTooDeep := fun h => hv u (h ▸ hr)
      simpa [closing] using fun h => absurd h (leaves d fault hf)
    | ok _ u =>
      rw [onward_ok]
      cases hstop : (course d).stop with
      | none => simp [closing]
      | some fault => simpa [closing] using fun h => absurd h (leaves d fault (stops d fault hstop))

end

namespace Graph.Environment

variable (e : Environment) {Q : Fault → Prop}

theorem failsIn_reading (hq : ∀ message, Q (.unusable message)) (expression : String) :
    FailsIn Q (reading expression) := by
  unfold reading
  split
  · exact .ok _
  · exact .error (hq _)

theorem failsIn_found (hq : ∀ message name, Q (.linkage message name)) (d : Descriptor) :
    FailsIn Q (e.found d) := by
  unfold found
  split
  · exact .ok _
  · exact .error (hq _ _)

theorem failsIn_force (hq : ∀ name, Q (.notPresent (some name) none)) (v : Value) :
    FailsIn Q (e.force v) := by
  unfold force
  split
  · split
    · exact .ok _
    · exact .error (hq _)
  · exact .ok _

section

variable (hq : ∀ message, Q (.unusable message))

include hq

theorem failsIn_slotReading (slot : Option String) : FailsIn Q (slotReading slot) := by
  cases slot with
  | none => exact .ok _
  | some expression => exact failsIn_reading hq expression

theorem failsIn_parameters (ps : List ParameterDefinition) :
    FailsIn Q (ps.mapM fun p => slotReading p.type) :=
  .mapM (fun p => failsIn_slotReading hq p.type) ps

theorem failsIn_readMethod (m : MethodDefinition) : FailsIn Q (e.readMethod m) :=
  (failsIn_slotReading hq m.returns).bind fun _ =>
    (FailsIn.mapM (failsIn_reading hq) m.raises).bind fun _ =>
      (failsIn_parameters hq m.parameters).bind fun _ => .ok _

theorem failsIn_readConstructor (owner : String) (c : ConstructorDefinition) :
    FailsIn Q (e.readConstructor owner c) :=
  (FailsIn.mapM (failsIn_reading hq) c.raises).bind fun _ =>
    (failsIn_parameters hq c.parameters).bind fun _ => .ok _

theorem failsIn_readField (f : FieldDefinition) : FailsIn Q (e.readField f) :=
  (failsIn_slotReading hq f.type).bind fun _ => .ok _

end

theorem failsIn_read (hq : ∀ name, Q (.notPresent (some name) none))
    (hr : ∀ message, Q (.restricted message)) (hk : ∀ key, Q (.other .key key))
    (a : AnnotationDefinition) (accessor : String) : FailsIn Q (e.read a accessor) := by
  unfold read
  split
  · exact .error (hk _)
  · exact .error (hr _)
  · exact (FailsIn.mapM (e.failsIn_force hq) _).bind fun _ => .ok _
  · exact (FailsIn.mapM (e.failsIn_force hq) _).bind fun _ => .ok _
  · exact e.failsIn_force hq _

/-- No answer of an environment is for want of depth. -/
theorem faultsIn_answers : e.answers.FaultsIn (· ≠ .nestedTooDeep) := by
  have found := e.failsIn_found (Q := (· ≠ .nestedTooDeep)) (by simp)
  exact {
    methods := fun d => (found d).bind fun _ => .mapM (e.failsIn_readMethod (by simp)) _
    constructors := fun d => (found d).bind fun _ => .mapM (e.failsIn_readConstructor (by simp) _) _
    fields := fun d => (found d).bind fun _ => .mapM (e.failsIn_readField (by simp)) _
    supertype := fun d => (found d).bind fun _ => failsIn_slotReading (by simp) _
    interfaces := fun d => (found d).bind fun _ => .mapM (failsIn_reading (by simp)) _
    annotations := fun d => (found d).bind fun _ => .ok _
    packageAnnotations := fun d => (found d).bind fun _ => .ok _
    accessors := fun _ => .ok _
    invoke := fun a => e.failsIn_read (by simp) (by simp) (by simp) a.value
    naming := fun _ => .ok _
    unwalkable := by simp }

end Graph.Environment

namespace Walker

open TypeReach.Graph

variable {e : Environment} {w : Walker Descriptor} {depth : Nat} {memory : Parses}
  {root : Descriptor}

/-- A load that is deep enough for all that it may open does not run out of depth. -/
theorem load_ne_nestedTooDeep (hm : Faithful memory)
    (deep : Deep (e.answers.course w.options) depth w.marked root) :
    (w.load e.provider depth memory (.concrete root)).outcome ≠ .error .nestedTooDeep := by
  intro h
  have hs := (load_cases e.gives_provider.steady hm w depth (.concrete root)).1
  rcases hs with ⟨ho, -⟩ | ⟨fault, ho, hs⟩
  · cases ho.symm.trans h
  · cases Except.error.inj (ho.symm.trans h)
    rw [e.gives_provider.answers_eq hm] at hs
    simp only [survey, TypeRef.course, Course.run_visit] at hs
    exact survey_ne_nestedTooDeep (fun d => e.faultsIn_answers.course w.options d)
      (fun _ _ hf => Answers.leaving_ne_nestedTooDeep e.faultsIn_answers hf) deep _ hs

/-- From a depth at which a load does not run out of depth on, it comes to the same. -/
theorem load_eq_of_le {depth' : Nat} (h : depth ≤ depth')
    (hn : (w.load e.provider depth memory (.concrete root)).outcome ≠ .error .nestedTooDeep) :
    w.load e.provider depth' memory (.concrete root) =
      w.load e.provider depth memory (.concrete root) := by
  have hext := Walk.extends_type (p := e.provider) w.options h root
    { marked := w.marked, moves := [], notes := [], calls := [], memory }
  simp only [load, Walk.reference, run] at hn ⊢
  rw [hext]
  intro t ht
  rw [ht] at hn
  exact hn rfl

end Walker

end TypeReach
