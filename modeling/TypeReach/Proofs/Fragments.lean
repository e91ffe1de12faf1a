import TypeReach.Proofs.Mentions

/-!
# Fragments of objects

The hints inside an object that lead to other hints, as far as they can be taken out of it. There
are no more of them than nodes. An object is put together from some others as far as its fragments
are among theirs; so is what a universe holds, if all that names in it lead to is.
-/

namespace TypeReach.Classes

theorem mem_of_lookup {κ β : Type} [BEq κ] [LawfulBEq κ] {entries : List (κ × β)} {key : κ}
    {b : β} (h : entries.lookup key = some b) : (key, b) ∈ entries := by
  obtain ⟨before, after, rfl, -⟩ := List.lookup_eq_some_iff.1 h
  simp

namespace Object

mutual

/-- The hints in an object that lead to other hints, from the outermost inwards. No reading takes
anything out of a row or a mapping, so that these have none; among arguments, a list stands for its
items. -/
def fragments : Object → List Object
  | forward number text lenient => [forward number text lenient]
  | wrapped f hint => wrapped f hint :: hint.fragments
  | annotated hint annotations => annotated hint annotations :: hint.fragments
  | union members => union members :: fragmentsListed members
  | either members => either members :: fragmentsListed members
  | applied how origin arguments => applied how origin arguments :: fragmentsListed arguments
  | parameters arguments => parameters arguments :: fragmentsListed arguments
  | record _ fields => fragmentsStored fields
  | slice start stop step => start.fragments ++ stop.fragments ++ step.fragments
  | _ => []

/-- The fragments of arguments. -/
def fragmentsListed : List Object → List Object
  | [] => []
  | list items :: os => fragmentsItems items ++ fragmentsListed os
  | o :: os => o.fragments ++ fragmentsListed os

/-- The fragments of several objects. -/
def fragmentsItems : List Object → List Object
  | [] => []
  | o :: os => o.fragments ++ fragmentsItems os

/-- The fragments of what a record holds. -/
def fragmentsStored : List (String × Object) → List Object
  | [] => []
  | (_, o) :: fs => o.fragments ++ fragmentsStored fs

end

theorem fragmentsItems_eq_flatMap (os : List Object) :
    fragmentsItems os = os.flatMap fragments := by
  induction os with
  | nil => rfl
  | cons o os ih => simp [fragmentsItems, ih]

theorem fragmentsListed_eq_flatMap (os : List Object) :
    fragmentsListed os = (os.flatMap listed).flatMap fragments := by
  induction os with
  | nil => rfl
  | cons o os ih =>
    cases o <;> simp [fragmentsListed, listed, fragmentsItems_eq_flatMap, ih]

theorem fragments_subset_of_mem_listed {o : Object} {os : List Object}
    (h : o ∈ os.flatMap listed) : o.fragments ⊆ fragmentsListed os := by
  rw [fragmentsListed_eq_flatMap]
  exact fun f hf => List.mem_flatMap.2 ⟨o, h, hf⟩

theorem fragments_subset_of_mem {o : Object} {os : List Object} (h : o ∈ os) :
    o.fragments ⊆ fragmentsListed os := by
  cases o with
  | list items => exact List.nil_subset _
  | _ => exact fragments_subset_of_mem_listed (List.mem_flatMap.2 ⟨_, h, by simp [listed]⟩)

theorem fragmentsStored_eq_flatMap (fs : List (String × Object)) :
    fragmentsStored fs = fs.flatMap fun f => f.2.fragments := by
  induction fs with
  | nil => rfl
  | cons f fs ih => simp [fragmentsStored, ih]

mutual

/-- An object has no more fragments than nodes. -/
theorem length_fragments_le : ∀ o : Object, o.fragments.length ≤ o.size
  | forward .. => by simp [fragments, size]
  | wrapped _ hint | annotated hint _ => by
    have := length_fragments_le hint
    simp only [fragments, size, List.length_cons]
    omega
  | union os | either os | applied _ _ os | parameters os => by
    have := length_fragmentsListed_le os
    simp only [fragments, size, List.length_cons]
    omega
  | record _ fields => by
    have := length_fragmentsStored_le fields
    simp only [fragments, size]
    omega
  | slice start stop step => by
    have := length_fragments_le start
    have := length_fragments_le stop
    have := length_fragments_le step
    simp only [fragments, size, List.length_append]
    omega
  | null | bool _ | int _ | double _ | str _ | list _ | tuple _ | mapping _ | cls _ | typeVar _
  | anything | rest | bare _ | literal _ | feature .. | thing _ => by simp [fragments]

theorem length_fragmentsListed_le : ∀ os : List Object, (fragmentsListed os).length ≤ sizeList os
  | [] => by simp [fragmentsListed]
  | o :: os => by
    have := length_fragmentsListed_le os
    cases o with
    | list items =>
      have := length_fragmentsItems_le items
      simp only [fragmentsListed, sizeList, size, List.length_append]
      omega
    | _ =>
      simp only [fragmentsListed, sizeList, List.length_append]
      exact Nat.add_le_add (length_fragments_le _) ‹_›

theorem length_fragmentsItems_le : ∀ os : List Object, (fragmentsItems os).length ≤ sizeList os
  | [] => by simp [fragmentsItems]
  | o :: os => by
    have := length_fragments_le o
    have := length_fragmentsItems_le os
    simp only [fragmentsItems, sizeList, List.length_append]
    omega

theorem length_fragmentsStored_le : ∀ fs : List (String × Object),
    (fragmentsStored fs).length ≤ sizeFields fs
  | [] => by simp [fragmentsStored]
  | (_, o) :: fs => by
    have := length_fragments_le o
    have := length_fragmentsStored_le fs
    simp only [fragmentsStored, sizeFields, List.length_append]
    omega

end

/-- All fragments of an object are among some objects. -/
def Within (known : List Object) (o : Object) : Prop :=
  o.fragments ⊆ known

theorem Within.of_nil {known : List Object} {o : Object} (h : o.fragments = []) :
    o.Within known := by
  simp [Within, h]

end Object

/-- All that a call gives is put together from some objects. -/
structure Call.Within (known : List Object) (call : Call) : Prop where
  arguments : ∀ o ∈ call.arguments, o.Within known
  named : ∀ e ∈ call.named, e.2.Within known

/-- All that an attribute can lead to is put together from some objects. -/
def Attribute.Within (known : List Object) (a : Attribute) : Prop :=
  ∀ o ∈ Universe.attributeObjects a, o.Within known

theorem within_value {known : List Object} {v : Object} :
    (Attribute.value v).Within known ↔ v.Within known := by
  simp [Attribute.Within, Universe.attributeObjects]

theorem Attribute.Within.outcomes {known : List Object} {a : Attribute} {f : Function}
    (h : a.Within known) (hf : a.function? = some f) :
    ∀ o ∈ Universe.outcomes f, o.Within known := by
  cases a with
  | value v => cases hf
  | property getter =>
    obtain rfl : getter = some f := hf
    exact h
  | _ =>
    cases hf
    exact h

/-- All that a class has under a name can lead to is put together from some objects. -/
def Content.Within (known : List Object) : Content → Prop
  | .attribute a => a.Within known
  | .held _ => True

/-- An object that comes of something is put together from some objects. -/
def Gives (known : List Object) (r : Except Fault Object) : Prop :=
  ∀ o, r = .ok o → o.Within known

section

variable {known : List Object} {o : Object}

@[simp] theorem gives_ok : Gives known (.ok o) ↔ o.Within known := by simp [Gives]

@[simp] theorem gives_error {fault : Fault} : Gives known (.error fault) := by simp [Gives]

theorem Gives.of_nil (h : o.fragments = []) : Gives known (.ok o) :=
  gives_ok.2 (.of_nil h)

theorem gives_of_map {found : Option Object} {r : Except Fault Object}
    (hfound : ∀ b, found = some b → b.Within known) (h : found.map Except.ok = some r) :
    Gives known r := by
  obtain ⟨b, hb, rfl⟩ := Option.map_eq_some_iff.1 h
  exact gives_ok.2 (hfound b hb)

theorem gives_bind {β : Type} {a : Except Fault β} {f : β → Except Fault Object}
    (h : ∀ b, a = .ok b → Gives known (f b)) : Gives known (a >>= f) := by
  intro o ho
  obtain ⟨b, hb, ho⟩ := exists_of_bind_eq_ok ho
  exact h b hb o ho

theorem gives_map {β : Type} {a : Except Fault β} {f : β → Object} (h : ∀ b, (f b).Within known) :
    Gives known (f <$> a) := by
  cases a with
  | error fault => exact gives_error
  | ok b => exact gives_ok.2 (h b)

/-- Calls of objects that are put together from some objects give such objects. -/
def Caller.Keeps (known : List Object) (again : Caller) : Prop :=
  ∀ o call, o.Within known → call.Within known → Gives known (again o call)

end

/-- All that names in a universe lead to is put together from some objects. -/
def Universe.Within (known : List Object) (u : Universe) : Prop :=
  ∀ o ∈ u.objects, o.Within known

namespace Universe

variable {u : Universe} {c : ClassId} {o : Object} {name : String} {a : Attribute}

/-! ### What the universe holds -/

theorem mem_classes_of_info {i : ClassInfo} (h : u.info? c = some i) : i ∈ u.classes := by
  cases c with
  | standard module name => cases h
  | declared index => exact List.mem_of_getElem? h

theorem mem_objects_of_module {module : String} {m : Module}
    (hm : (module, m) ∈ u.modules.entries) (ho : (name, o) ∈ m.attributes.entries) :
    o ∈ u.objects := by
  simp only [objects, List.mem_append, List.mem_flatMap, List.mem_map]
  exact .inl (.inl (.inl ⟨_, hm, _, ho, rfl⟩))

theorem mem_objects_of_attribute {i : ClassInfo} (hi : i ∈ u.classes)
    (ha : i.attributes.get? name = some a) (ho : o ∈ attributeObjects a) : o ∈ u.objects := by
  simp only [objects, List.mem_append, List.mem_flatMap]
  exact .inl (.inl (.inr ⟨i, hi, .inl (.inl (.inl ⟨_, Table.mem_of_get? ha, ho⟩))⟩))

theorem mem_objects_of_standard {i : ClassInfo} {fields : Table RecordField}
    {e : String × RecordField} (hi : i ∈ u.classes) (hfields : i.recordFields = some fields)
    (he : e ∈ fields.entries) (ho : e.2.standard = some o) : o ∈ u.objects := by
  simp only [objects, List.mem_append, List.mem_flatMap]
  refine .inl (.inl (.inr ⟨i, hi, .inl (.inl (.inr ?_))⟩))
  exact List.mem_filterMap.2 ⟨e, by simpa [hfields] using he, ho⟩

theorem mem_objects_of_bound {v : TypeVariable} (hv : v ∈ u.typeVariables) (ho : o ∈ v.bounds) :
    o ∈ u.objects := by
  simp only [objects, List.mem_append, List.mem_flatMap]
  exact .inr ⟨v, hv, ho⟩

theorem mem_objects_of_settled {n : Nat} (h : (n, o) ∈ u.settled) : o ∈ u.objects := by
  simp only [objects, List.mem_append, List.mem_map]
  exact .inl (.inr ⟨_, h, rfl⟩)

end Universe

end TypeReach.Classes
