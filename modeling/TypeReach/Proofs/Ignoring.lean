import TypeReach.Proofs.ClassClosure
import TypeReach.Proofs.Lighter

/-!
# Ignored modules

A class whose module is ignored declares nothing, and all other classes declare what they did. So
walks that ignore more modules are lighter: where a walk succeeds, one that ignores more does, and
marks nothing else.
-/

namespace TypeReach

namespace Classes

namespace Inspector

variable {i : Inspector} {d : Descriptor} {options : WalkOptions}

/-- A descriptor that is not looked into declares nothing. -/
theorem course_of_inspected?_none (h : i.inspected? d = .ok none) :
    i.answers.course options d = .done := by
  refine Answers.course_eq_done options ?_ ?_ ?_ ?_ ?_ ?_ ?_
  · simp only [answers, methods, h]
    rfl
  · simp only [answers, constructors, h]
    rfl
  · simp only [answers, fields, h]
    rfl
  · simp only [answers, supertype, bases, h]
    rfl
  · simp only [answers, interfaces, bases, h]
    rfl
  · simp only [answers, annotations, h]
    rfl
  · simp only [answers, packageAnnotations, h]
    rfl

/-- A descriptor of which it cannot be told whether it is looked into is not walked. -/
theorem course_of_inspected?_error {fault : Fault} (h : i.inspected? d = .error fault) :
    i.answers.course options d = .fail fault := by
  have hmethods : i.answers.methods d = .error fault := by
    simp only [answers, methods, h]
    rfl
  simp [Answers.course, hmethods, Course.after]

/-- Only declared classes have visits. -/
theorem exists_declared_of_visits (h : (i.answers.course options d).visits ≠ []) :
    ∃ n < i.world.classes.length, d = .cls (.declared n) := by
  cases ho : i.inspected? d with
  | error fault => simp [course_of_inspected?_error ho, Course.fail] at h
  | ok o =>
    cases d with
    | plain value =>
      cases ho
      simp [course_of_inspected?_none (i := i) (d := .plain value) rfl, Course.done] at h
    | cls c =>
      rcases inspected?_cases ho with ⟨rfl, -⟩ | ⟨info, -, hinfo, -⟩
      · simp [course_of_inspected?_none ho, Course.done] at h
      · cases c with
        | declared n => exact ⟨n, (List.getElem?_eq_some_iff.1 hinfo).1, rfl⟩
        | standard module name => cases hinfo

variable (i) in
/-- The depth of an inspector is enough for every walk. -/
theorem deep (options : WalkOptions) (root : Descriptor) :
    Deep (i.answers.course options) i.depth [] root := by
  refine ⟨(Finset.range i.world.classes.length).image fun n => .cls (.declared n),
    fun x _ hx => ?_, ?_⟩
  · obtain ⟨n, hn, rfl⟩ := exists_declared_of_visits hx
    exact Finset.mem_image_of_mem _ (Finset.mem_range.2 hn)
  · have hfilter := Finset.card_filter_le
      ((Finset.range i.world.classes.length).image fun n => Descriptor.cls (.declared n)) (· ∉ [])
    have himage := Finset.card_image_le (s := Finset.range i.world.classes.length)
      (f := fun n => Descriptor.cls (.declared n))
    rw [Finset.card_range] at himage
    simp only [depth]
    omega

section

variable {u : Universe} {I J : List (Option String)}

/-- A descriptor that is looked into likewise declares the same. -/
theorem course_of_inspected?_eq
    (h : (⟨u, J⟩ : Inspector).inspected? d = (⟨u, I⟩ : Inspector).inspected? d) :
    (⟨u, J⟩ : Inspector).answers.course options d =
      (⟨u, I⟩ : Inspector).answers.course options d := by
  refine Answers.course_congr options rfl rfl rfl ?_ ?_ ?_ ?_ ?_ ?_ ?_
  · simp only [answers, methods, h]
    rfl
  · simp only [answers, constructors, h]
    rfl
  · simp only [answers, fields, h]
    rfl
  · simp only [answers, supertype, bases, h]
    rfl
  · simp only [answers, interfaces, bases, h]
    rfl
  · simp only [answers, annotations, h]
    rfl
  · simp only [answers, packageAnnotations, h]
    rfl

theorem inspected?_none_of_isInspectable (h : i.isInspectable d = .ok false) :
    i.inspected? d = .ok none := by
  cases d <;> simp [inspected?, h, Bind.bind, Except.bind, Pure.pure, Except.pure]

theorem inspected?_eq_of_isInspectable
    (h : (⟨u, J⟩ : Inspector).isInspectable d = (⟨u, I⟩ : Inspector).isInspectable d) :
    (⟨u, J⟩ : Inspector).inspected? d = (⟨u, I⟩ : Inspector).inspected? d := by
  simp only [inspected?, h]

theorem exists_isAmong_eq_ok (module : String) (others : List String) :
    ∃ among, isAmong module (others.map some) = .ok among := by
  induction others with
  | nil => exact ⟨false, rfl⟩
  | cons other others ih =>
    rw [List.map_cons, isAmong]
    split
    · exact ⟨true, rfl⟩
    · exact ih

end

section

variable (u : Universe) {I J : List String} (hIJ : ∀ m ∈ I, m ∈ J)

include hIJ

/-- If more modules are ignored, a class is not looked into or is so as before. -/
theorem isInspectable_of_subset (d : Descriptor) :
    (⟨u, J.map some⟩ : Inspector).isInspectable d = .ok false ∨
      (⟨u, J.map some⟩ : Inspector).isInspectable d =
        (⟨u, I.map some⟩ : Inspector).isInspectable d := by
  cases d with
  | plain value => exact .inl rfl
  | cls c =>
    by_cases hJ : (⟨u, J.map some⟩ : Inspector).isInspectable (.cls c) = .ok true
    · obtain ⟨module, hmodule, hstandard, hignored⟩ := isInspectable_eq_true_iff.1 hJ
      have hI : (⟨u, I.map some⟩ : Inspector).isInspectable (.cls c) = .ok true := by
        refine isInspectable_eq_true_iff.2 ⟨module, hmodule, hstandard, fun o ho => hignored o ?_⟩
        obtain ⟨m, hm, rfl⟩ := List.mem_map.1 ho
        exact List.mem_map_of_mem (hIJ m hm)
      exact .inr (hJ.trans hI.symm)
    · cases hmodule : (⟨u, J.map some⟩ : Inspector).judgedModule c with
      | error fault =>
        have hmodule' : (⟨u, I.map some⟩ : Inspector).judgedModule c = .error fault := hmodule
        exact .inr (by simp [isInspectable, hmodule, hmodule', Bind.bind, Except.bind])
      | ok module =>
        obtain ⟨among, hamong⟩ := exists_isAmong_eq_ok module J
        left
        simp only [isInspectable, hmodule, hamong, Bind.bind, Except.bind, Pure.pure,
          Except.pure] at hJ ⊢
        split
        · rfl
        · next hstandard =>
          rw [if_neg hstandard] at hJ
          cases among with
          | true => rfl
          | false => exact absurd rfl hJ

/-- A walk that ignores more modules is lighter. -/
theorem course_lighter_of_subset (options : WalkOptions) (d : Descriptor) :
    ((⟨u, J.map some⟩ : Inspector).answers.course options d).Lighter
      ((⟨u, I.map some⟩ : Inspector).answers.course options d) := by
  rcases isInspectable_of_subset u hIJ d with h | h
  · rw [course_of_inspected?_none (inspected?_none_of_isInspectable h)]
    exact Course.done_lighter _
  · rw [course_of_inspected?_eq (inspected?_eq_of_isInspectable h)]
    exact .refl _

end

/-- A class `A` below `B`, which lies in another package and has a field of type `C` from there. -/
def layered : Universe where
  modules := .ofEntries [
    ("app", {
      attributes := .ofEntries [("__metadata__", .tuple []), ("A", .cls (.declared 0))] }),
    ("lib.base", {
      attributes := .ofEntries
        [("__metadata__", .tuple []), ("B", .cls (.declared 1)), ("C", .cls (.declared 2))] })]
  classes := [
    { module := some "app", qualname := "A", bases := [.cls (.declared 1)],
      parents := [.declared 1], order := [.declared 0, .declared 1, .builtin "object"] },
    { module := some "lib.base", qualname := "B", parents := [.builtin "object"],
      order := [.declared 1, .builtin "object"],
      fields := .ofEntries [("part", .cls (.declared 2))] },
    { module := some "lib.base", qualname := "C", parents := [.builtin "object"],
      order := [.declared 2, .builtin "object"] }]

end Inspector

end Classes

end TypeReach
