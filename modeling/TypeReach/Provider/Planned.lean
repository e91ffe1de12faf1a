import TypeReach.Provider

/-!
# Providers with planned faults

A plan lists questions that are to fail, how often, and with what. A provider under a plan asks the
plan first; a fault that applies is used up by one, and the provider itself is not asked.
-/

namespace TypeReach

/-- What happens instead of an answer: a fault, or a single field of the given type. -/
inductive PlannedEffect (δ : Type) where
  | fault (fault : Fault)
  | field (type : TypeRef δ)

/-- A planned fault: the kind of question, the type it is about, for an attribute also its name,
and how often it still applies. -/
structure PlannedFault (δ : Type) where
  kind : String
  type : String
  accessor : Option String := none
  times : Option Nat := none
  effect : PlannedEffect δ

namespace Call

/-- The kind of a question, by its first word in a trace. -/
def kind : Call → String
  | methods _ => "methods"
  | constructors _ => "constructors"
  | fields _ => "fields"
  | supertype _ => "supertype"
  | interfaces _ => "interfaces"
  | annotations _ => "annotations"
  | package _ => "package"
  | accessors _ => "accessors"
  | invoke _ _ => "invoke"

/-- The name of the type that a question is about. -/
def type : Call → String
  | methods t | constructors t | fields t | supertype t | interfaces t | annotations t
  | package t | accessors t | invoke t _ => t

/-- The attribute that a question is about. -/
def accessor? : Call → Option String
  | invoke _ a => some a
  | _ => none

end Call

namespace PlannedFault

variable {σ δ α ν β : Type}

/-- Whether a planned fault still applies to a question. -/
def applies (f : PlannedFault δ) (call : Call) : Bool :=
  f.kind == call.kind && f.type == call.type
    && (f.accessor.isNone || f.accessor == call.accessor?) && f.times != some 0

/-- The effect of the first planned fault that applies, and the plan after it. -/
def take? (call : Call) : List (PlannedFault δ) → Option (PlannedEffect δ × List (PlannedFault δ))
  | [] => none
  | f :: plan =>
    if f.applies call then some (f.effect, { f with times := f.times.map (· - 1) } :: plan)
    else (take? call plan).map fun r => (r.1, f :: r.2)

/-- A question that no plan is about. -/
def unplanned (look : Lookup σ β) : Lookup (σ × List (PlannedFault δ)) β := fun (memory, plan) =>
  match look memory with
  | .ok b memory => .ok b (memory, plan)
  | .error fault memory => .error fault (memory, plan)

/-- A question put to a plan first; `instead` gives the answer for a planned field. -/
def rehearse (call : Call) (instead : TypeRef δ → Option β) (look : Lookup σ β) :
    Lookup (σ × List (PlannedFault δ)) β := fun (memory, plan) =>
  match take? call plan with
  | none => unplanned look (memory, plan)
  | some (.fault fault, plan) => .error fault (memory, plan)
  | some (.field type, plan) =>
    match instead type with
    | some b => .ok b (memory, plan)
    | none => unplanned look (memory, plan)

end PlannedFault

/-- A provider under a plan of faults. -/
def Provider.planned {σ δ α ν : Type} (p : Provider σ δ α ν) :
    Provider (σ × List (PlannedFault δ)) δ α ν :=
  let never {β : Type} : TypeRef δ → Option β := fun _ => none
  { typeName := p.typeName
    shown := p.shown
    methods := fun d => PlannedFault.rehearse (.methods (p.typeName d)) never (p.methods d)
    constructors := fun d =>
      PlannedFault.rehearse (.constructors (p.typeName d)) never (p.constructors d)
    fields := fun d => PlannedFault.rehearse (.fields (p.typeName d))
      (fun type => some [{ name := "bogus", type, annotations := [] }]) (p.fields d)
    supertype := fun d => PlannedFault.rehearse (.supertype (p.typeName d)) never (p.supertype d)
    interfaces := fun d => PlannedFault.rehearse (.interfaces (p.typeName d)) never (p.interfaces d)
    annotations := fun d =>
      PlannedFault.rehearse (.annotations (p.typeName d)) never (p.annotations d)
    packageAnnotations := fun d =>
      PlannedFault.rehearse (.package (p.typeName d)) never (p.packageAnnotations d)
    accessors := fun a =>
      PlannedFault.rehearse (.accessors (p.typeName a.descriptor)) never (p.accessors a)
    invoke := fun a name =>
      PlannedFault.rehearse (.invoke (p.typeName a.descriptor) name) never (p.invoke a name)
    naming := fun d => PlannedFault.unplanned (p.naming d) }

end TypeReach
