import TypeReach.Data.Table
import TypeReach.Data.Value
import TypeReach.Fault
import TypeReach.Text.LetterCase

/-!
# Discovery of providers

Providers are known by names in small letters: those built in come first, then those of entry
points, and the first of a name wins. A list of enabled names restricts what is found.
-/

namespace TypeReach.Discovery

/-- A class of providers. -/
inductive ProviderClass where
  | registry
  | classes
  /-- A class from outside, which takes any options. -/
  | plugin (className providerName : String)
  deriving DecidableEq, Repr, Inhabited

namespace ProviderClass

/-- The name of the class. -/
def className : ProviderClass → String
  | registry => "RegistryProvider"
  | classes => "PythonTypeProvider"
  | plugin c _ => c

/-- The name that its providers give themselves. -/
def providerName : ProviderClass → String
  | registry => "registry"
  | classes => "python"
  | plugin _ n => n

/-- The only option of a class that is built in. -/
def option? : ProviderClass → Option String
  | registry => some "environment"
  | classes => some "ignored_modules"
  | plugin _ _ => none

end ProviderClass

/-- Options by name. -/
abbrev Options := List (String × Value)

/-- A provider made with options. -/
structure Made where
  providerClass : ProviderClass
  options : Options
  deriving Inhabited

/-- What an entry point loads. -/
inductive Loaded where
  /-- A class of providers. -/
  | providerClass (c : ProviderClass)
  /-- A provider made already. -/
  | provider (p : Made)
  /-- A function that makes a provider of a class with the options it is given. -/
  | factory (c : ProviderClass)
  /-- A class of other things, which takes no options. -/
  | otherClass (name : String)
  /-- A function that makes something else. -/
  | otherFactory
  /-- A thing that makes nothing. -/
  | other
  deriving Inhabited

/-- An entry point: its name, and what it loads or why that fails. -/
structure EntryPoint where
  name : String
  loaded : Except String Loaded

/-- Why no provider is found or made. -/
inductive DiscoveryError where
  /-- An entry point cannot be loaded. -/
  | unloadable (name message : String)
  /-- Enabled names that nothing goes by. -/
  | unknown (names : List String)
  | notEnabled (name : String)
  /-- An entry point that makes no providers. -/
  | notProvider
  /-- An option that cannot be given. -/
  | badOption (message : String)
  deriving DecidableEq, Repr, Inhabited

namespace DiscoveryError

/-- What is said about a failure to find or make a provider. -/
def message : DiscoveryError → String
  | unloadable name message => "Failed to load provider entry point '" ++ name ++ "': " ++ message
  | unknown names => "Unknown providers requested: " ++ ", ".intercalate names
  | notEnabled name => "Provider '" ++ name ++ "' is not enabled"
  | notProvider => "Provider entry point must be a MetadataProvider subclass or factory"
  | badOption message => message

/-- A failure to find or make a provider, as a fault. -/
def toFault (e : DiscoveryError) : Fault :=
  match e with
  | unloadable .. => .other .runtime e.message
  | unknown _ => .other .value e.message
  | notEnabled _ => .other .value e.message
  | notProvider => .other .type e.message
  | badOption _ => .other .type e.message

end DiscoveryError

/-- What makes a provider. -/
inductive Factory where
  | builtIn (c : ProviderClass)
  | entryPoint (loaded : Loaded)
  deriving Inhabited

/-- The providers that are built in. -/
def builtIns : List (String × Factory) :=
  [("registry", .builtIn .registry), ("python", .builtIn .classes)]

/-- The factories found so far, and the enabled names that are still to be found. -/
structure Finding where
  factories : Table Factory := .empty
  wanted : Option (List String)

/-- Takes a factory in, unless its name is not wanted or taken already. -/
def Finding.add (f : Finding) (name : String) (factory : Factory) : Finding :=
  let name := Text.lower name
  match f.wanted with
  | some names =>
    if names.contains name && !f.factories.contains name then
      { factories := f.factories.put name factory, wanted := some (names.filter (· != name)) }
    else f
  | none =>
    if f.factories.contains name then f
    else { f with factories := f.factories.put name factory }

/-- Takes the entry points in, in order. -/
def Finding.addAll (f : Finding) : List EntryPoint → Except DiscoveryError Finding
  | [] => .ok f
  | e :: es =>
    match e.loaded with
    | .ok loaded => (f.add e.name (.entryPoint loaded)).addAll es
    | .error message => .error (.unloadable e.name message)

/-- The names in order of code points, each once. -/
def sortedNames (names : List String) : List String :=
  (names.eraseDups).mergeSort fun a b => decide (a ≤ b)

/-- The factories of the enabled providers, by name. -/
def discover (enabled : Option (List String)) (entries : List EntryPoint) :
    Except DiscoveryError (Table Factory) := do
  let start : Finding := { wanted := enabled.map fun names => names.map Text.lower }
  let found := builtIns.foldl (fun f e => f.add e.1 e.2) start
  let found ← found.addAll entries
  match found.wanted with
  | some (name :: names) => throw (.unknown (sortedNames (name :: names)))
  | _ => return found.factories

/-- Why a value cannot be the list of ignored modules, if it cannot: it must have items. -/
private def notIterable? : Value → Option String
  | .null => some "NoneType"
  | .bool _ => some "bool"
  | .int _ => some "int"
  | .double _ => some "float"
  | _ => none

/-- The name of the provider that is being made, which no option can have. -/
def ownName : String := "self"

/-- Why a class does not take an option, if it does not. A class from outside takes all but the name
of its own provider. -/
def ProviderClass.refusal? (c : ProviderClass) (name : String) : Option String :=
  let announce := c.className ++ ".__init__() got "
  if name == ownName then some (announce ++ "multiple values for argument '" ++ name ++ "'")
  else
    match c.option? with
    | none => none
    | some known =>
      if name == known then none
      else some (announce ++ "an unexpected keyword argument '" ++ name ++ "'")

/-- Makes a provider of a class. -/
def ProviderClass.make (c : ProviderClass) (options : Options) : Except DiscoveryError Made :=
  match options.findSome? fun o => c.refusal? o.1 with
  | some why => .error (.badOption why)
  | none =>
    match c, options.filterMap fun o => notIterable? o.2 with
    | .classes, kind :: _ => .error (.badOption ("'" ++ kind ++ "' object is not iterable"))
    | _, _ => .ok ⟨c, options⟩

/-- Makes a provider of what an entry point loads. -/
def Loaded.make (options : Options) : Loaded → Except DiscoveryError Made
  | providerClass c => c.make options
  | provider p => .ok p
  | factory c => c.make options
  | otherClass name =>
    if options.isEmpty then .error .notProvider
    else .error (.badOption (name ++ "() takes no arguments"))
  | otherFactory => .error .notProvider
  | other => .error .notProvider

/-- Makes a provider. The option `obj` stands in for what an entry point loads, and no value that an
option has makes providers. -/
def Factory.make (options : Options) : Factory → Except DiscoveryError Made
  | builtIn c => c.make options
  | entryPoint loaded =>
    if options.any (·.1 == "obj") then .error .notProvider else loaded.make options

/-- Makes the provider of a name, which must be enabled. The names of the two other parameters
cannot be options. -/
def create (name : String) (enabled : Option (List String)) (entries : List EntryPoint)
    (options : Options) : Except DiscoveryError Made :=
  match ["name", "enabled"].find? fun p => options.any (·.1 == p) with
  | some taken =>
    .error (.badOption ("create_provider() got multiple values for argument '" ++ taken ++ "'"))
  | none => do
    match (← discover enabled entries).get? (Text.lower name) with
    | some factory => factory.make options
    | none => throw (.notEnabled name)

end TypeReach.Discovery
