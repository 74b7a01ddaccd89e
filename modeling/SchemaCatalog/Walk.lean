import SchemaCatalog.Document
import SchemaCatalog.Naming
import SchemaCatalog.Overrides

/-!
Walks over schemas. A walk is the list of steps it takes and how it ends: with a value, or
with the fault that stopped it after those steps. What a walk does depends on the schema, the
name around it and the settings only; catalogs and logs are made from its steps afterwards.
-/
namespace SchemaCatalog

/-- A schema that no catalog can express. -/
inductive Unsupported where
  | fragment
  | negation
  | nonObjectMember (combinator : Combinator) (found : String)
  | mapValue (found : String)
  | missingItems
deriving DecidableEq, Repr

namespace Unsupported

def message : Unsupported → String
  | .fragment => "fragment schemas are not supported"
  | .negation => "'not' schemas are not supported"
  | .nonObjectMember combinator found =>
      combinator.keyword ++ " members must be object schemas, found " ++ found
  | .mapValue found => "map values must be a reference or a string schema, found " ++ found
  | .missingItems => "array schemas must declare items"

end Unsupported

/-- What stops a walk, at a place seen from where the walk starts. -/
inductive WalkFault where
  | unsupported (place : Pointer) (shape : Unsupported)
  | missingTarget (place : Pointer) (reference : String)
deriving DecidableEq, Repr

namespace WalkFault

def place : WalkFault → Pointer
  | .unsupported place _ => place
  | .missingTarget place _ => place

def within (steps : Pointer) : WalkFault → WalkFault
  | .unsupported place shape => .unsupported (steps ++ place) shape
  | .missingTarget place reference => .missingTarget (steps ++ place) reference

def pathText (fault : WalkFault) : String := Document.placeText "#" fault.place

def message (fault : WalkFault) : String :=
  match fault with
  | .unsupported _ shape => "unsupported schema at " ++ fault.pathText ++ ": " ++ shape.message
  | .missingTarget _ reference =>
      "reference at " ++ fault.pathText ++ " has no target name: " ++ reference

end WalkFault

inductive Step where
  | skip (component : String)
  | enter (component : String) (title : Option String)
  | field (name : String) (field : Field)
  | structure (name : String) (record : Structure)
deriving DecidableEq

structure Walk (α : Type) where
  steps : List Step
  outcome : Except WalkFault α

namespace Walk

variable {α β : Type}

def done (value : α) : Walk α := ⟨[], .ok value⟩

/-- One walk after another. A fault ends both; the steps before it stay. -/
def andThen (walk : Walk α) (next : α → Walk β) : Walk β :=
  match walk.outcome with
  | .ok value =>
      let rest := next value
      ⟨walk.steps ++ rest.steps, rest.outcome⟩
  | .error fault => ⟨walk.steps, .error fault⟩

instance : Monad Walk where
  pure := done
  bind := andThen

def take (step : Step) : Walk Unit := ⟨[step], .ok ()⟩

def stop (fault : WalkFault) : Walk α := ⟨[], .error fault⟩

/-- A walk below a place, with its fault seen from above. -/
def within (place : Pointer) (walk : Walk α) : Walk α :=
  ⟨walk.steps, walk.outcome.mapError (·.within place)⟩

def unsupported (shape : Unsupported) : Walk α := stop (.unsupported [] shape)

end Walk

/-- What becomes of a schema: the name it is registered as, if it is registered, and the name
by which it is referred to. -/
structure Registration where
  registeredName : Option String
  typeName : String
deriving DecidableEq, Repr

/-- What a walk depends on besides the schemas. -/
structure Settings where
  naming : Naming
  overrides : Option Overrides
deriving DecidableEq

namespace Schema

def registerField (name : String) (field : Field) : Walk Registration := do
  Walk.take (.field name field)
  return ⟨some name, name⟩

def registerStructure (name : String) (record : Structure) : Walk Registration := do
  Walk.take (.structure name record)
  return ⟨some name, name⟩

/-- The name that a reference stands for. -/
def targetName (path : String) (target : Option String) : Walk String :=
  match target with
  | some name => return name
  | none => Walk.stop (.missingTarget [] path)

/-- The name of a map's values: a reference's target, or the built-in string type. -/
def mapValueName : Kind → Walk String
  | .reference path target => targetName path target
  | .string _ => return stringType
  | kind => Walk.unsupported (.mapValue kind.name)

def walkMap (name : String) (value : Schema) : Walk Registration := do
  let valueName ← Walk.within ["additionalProperties"] (mapValueName value.kind)
  registerField name (.map stringType valueName .unbounded)

structure Visit where
  documentation : Option String
  walk : Walk Registration

/-- The members of the properties that `visits` holds, one after another in the order of their
names, which is also the order of their positions. -/
def walkMembers (required : List String) (visits : List (String × Visit)) :
    Walk (List (String × Member)) :=
  (NameMap.ofList visits).entries.zipIdx.mapM fun ((name, visit), position) => do
    let registration ← Walk.within ["properties", name] visit.walk
    return (name, ⟨registration.typeName, position, required.contains name, visit.documentation⟩)

mutual

/-- Registers a schema under a name or one derived from it. A reference registers nothing. -/
def walk (settings : Settings) : Schema → String → Walk Registration
  | ⟨.boolean, _⟩, name => registerField name .boolean
  | ⟨.integer shape, _⟩, name => registerField name shape.field
  | ⟨.number shape, _⟩, name => registerField name (.double shape.range)
  | ⟨.string shape, _⟩, name =>
      registerField name (.string (shape.field name settings.overrides))
  | ⟨.object properties required additional, _⟩, name =>
      match additional with
      | .values value => walkMap name value
      | _ => do
          let members ← walkMembers required (visits settings name properties)
          registerStructure name ⟨.ofList members⟩
  | ⟨.array none _ _, _⟩, _ => Walk.unsupported .missingItems
  | ⟨.array (some ⟨.reference path target, _⟩) minItems maxItems, _⟩, name => do
      let element ← Walk.within ["items"] (targetName path target)
      registerField name (.list element (.ofLimits minItems maxItems))
  | ⟨.array (some items) minItems maxItems, _⟩, name => do
      let names := settings.naming.split name
      let element ← Walk.within ["items"] (items.walk settings names.element)
      registerField names.list (.list element.typeName (.ofLimits minItems maxItems))
  | ⟨.combinator combinator members, _⟩, name => do
      let members ← walkCombined settings name combinator 0 members
      registerStructure name ⟨.ofList members⟩
  | ⟨.reference path target, _⟩, _ => do return ⟨none, ← targetName path target⟩
  | ⟨.fragment, _⟩, _ => Walk.unsupported .fragment
  | ⟨.not _, _⟩, _ => Walk.unsupported .negation
termination_by structural schema => schema

def visits (settings : Settings) (name : String) : List (String × Schema) → List (String × Visit)
  | [] => []
  | (property, schema) :: rest =>
      (property, ⟨schema.description, schema.walk settings (Naming.propertyName name property)⟩) ::
        visits settings name rest
termination_by structural properties => properties

/-- The members of all objects that a combinator puts together, first to last. -/
def walkCombined (settings : Settings) (name : String) (combinator : Combinator) (index : Nat) :
    List Schema → Walk (List (String × Member))
  | [] => return []
  | ⟨kind, _⟩ :: rest => do
      let members ← Walk.within [combinator.keyword, toString index] <|
        match kind with
        | .object properties required _ =>
            walkMembers required (visits settings (Naming.memberName name index) properties)
        | kind => Walk.unsupported (.nonObjectMember combinator kind.name)
      return members ++ (← walkCombined settings name combinator (index + 1) rest)
termination_by structural schemas => schemas

end

def walkComponent (settings : Settings) (title : Option String) (name : String) (schema : Schema) :
    Walk Registration := do
  Walk.take (.enter name title)
  Walk.within (Document.componentPlace name) (schema.walk settings name)

end Schema

end SchemaCatalog
