import SchemaCatalog.Catalog.Log

/-!
Builders: one catalog, one log and one place in the document that all parts of a build work on.
A fault ends what is under way and names the place where the builder stands; the types that
were registered before it stay in the catalog, and the builder goes back to where it came from.
-/
namespace SchemaCatalog

structure Builder where
  settings : Settings
  title : Option String
  catalog : Catalog
  place : Pointer
  log : List Event
deriving DecidableEq

/-- A part of a build. What it does to the builder stays also if it ends in a fault. -/
abbrev Build := ExceptT WalkFault (StateM Builder)

namespace Builder

variable {α : Type}

/-- A builder at the root of a document, over a catalog that may have types already. -/
def start (settings : Settings) (title : Option String) (catalog : Catalog) : Builder :=
  ⟨settings, title, catalog, [], []⟩

def note (event : Event) : Build Unit :=
  modify fun builder => { builder with log := builder.log ++ [event] }

def registerField (name : String) (field : Field) : Build Registration := do
  note (.registeringField name field.kind)
  let previous := (← get).catalog.field? name
  modify fun builder => { builder with catalog := builder.catalog.addField name field }
  if let some previous := previous then
    note (.fieldReplaced name previous.kind)
  if ((← get).catalog.structure? name).isSome then
    note (.fieldSharesName name)
  return ⟨some name, name⟩

def registerStructure (name : String) (record : Structure) : Build Registration := do
  note (.registeringStructure name record.members.size)
  let previous := (← get).catalog.structure? name
  modify fun builder => { builder with catalog := builder.catalog.addStructure name record }
  if previous.isSome then
    note (.structureReplaced name)
  if ((← get).catalog.field? name).isSome then
    note (.structureSharesName name)
  return ⟨some name, name⟩

def unsupported (shape : Unsupported) : Build α := do
  throw (.unsupported (← get).place shape)

def targetName (path : String) (target : Option String) : Build String := do
  match target with
  | some name => return name
  | none => throw (.missingTarget (← get).place path)

/-- A part of a build some steps further down. The builder goes as far back up as it was before,
however the part ends. -/
def within (steps : Pointer) (part : Build α) : Build α := ExceptT.mk do
  let depth := (← get).place.length
  modify fun builder => { builder with place := builder.place ++ steps }
  let result ← part.run
  modify fun builder => { builder with place := builder.place.take depth }
  return result

def mapValueName : Kind → Build String
  | .reference path target => targetName path target
  | .string _ => return stringType
  | kind => unsupported (.mapValue kind.name)

def registerMap (name : String) (value : Schema) : Build Registration := do
  let valueName ← within ["additionalProperties"] (mapValueName value.kind)
  registerField name (.map stringType valueName .unbounded)

/-- A property: its description, and the part of a build that finds the name of its type. -/
structure Property where
  documentation : Option String
  typeName : Build String

/-- A structure with one more member for each property, in the order of their names. A member
takes the place of one that the structure has under its name. -/
def addMembers (record : Structure) (required : List String)
    (properties : List (String × Property)) : Build Structure :=
  (NameMap.ofList properties).entries.zipIdx.foldlM (fun record ((name, property), position) => do
    let typeName ← within ["properties", name] property.typeName
    let member := ⟨typeName, position, required.contains name, property.documentation⟩
    return ⟨record.members.insert name member⟩) record

mutual

/-- Registers a schema under a name or one derived from it. A reference registers nothing. -/
def dispatch : Schema → String → Build Registration
  | ⟨.boolean, _⟩, name => registerField name .boolean
  | ⟨.integer shape, _⟩, name => registerField name shape.field
  | ⟨.number shape, _⟩, name => registerField name (.double shape.range)
  | ⟨.string shape, _⟩, name => do
      registerField name (.string (shape.field name (← get).settings.overrides))
  | ⟨.object properties required additional, _⟩, name =>
      match additional with
      | .values value => registerMap name value
      | _ => do
          let record ← addMembers .empty required (propertiesOf name properties)
          registerStructure name record
  | ⟨.array none _ _, _⟩, _ => unsupported .missingItems
  | ⟨.array (some ⟨.reference path target, _⟩) minItems maxItems, _⟩, name => do
      let element ← within ["items"] (targetName path target)
      registerField name (.list element (.ofLimits minItems maxItems))
  | ⟨.array (some items) minItems maxItems, _⟩, name => do
      let names := (← get).settings.naming.split name
      let element ← within ["items"] (dispatch items names.element)
      registerField names.list (.list element.typeName (.ofLimits minItems maxItems))
  | ⟨.combinator combinator members, _⟩, name => do
      let record ← addCombined name combinator .empty 0 members
      registerStructure name record
  | ⟨.reference path target, _⟩, _ => do return ⟨none, ← targetName path target⟩
  | ⟨.fragment, _⟩, _ => unsupported .fragment
  | ⟨.not _, _⟩, _ => unsupported .negation
termination_by structural schema => schema

def propertiesOf (name : String) : List (String × Schema) → List (String × Property)
  | [] => []
  | (property, ⟨.reference path target, description⟩) :: rest =>
      (property, ⟨description, targetName path target⟩) :: propertiesOf name rest
  | (property, schema) :: rest =>
      let registered := dispatch schema (Naming.propertyName name property)
      (property, ⟨schema.description, Registration.typeName <$> registered⟩) ::
        propertiesOf name rest
termination_by structural properties => properties

/-- A structure with the members of all objects that a combinator puts together. -/
def addCombined (name : String) (combinator : Combinator) (record : Structure) (index : Nat) :
    List Schema → Build Structure
  | [] => return record
  | ⟨kind, _⟩ :: rest => do
      let record ← within [combinator.keyword, toString index] <|
        match kind with
        | .object properties required _ =>
            addMembers record required (propertiesOf (Naming.memberName name index) properties)
        | kind => unsupported (.nonObjectMember combinator kind.name)
      addCombined name combinator record (index + 1) rest
termination_by structural schemas => schemas

end

def buildComponent (name : String) (schema : Schema) : Build Registration := do
  note (.building name (← get).title)
  within (Document.componentPlace name) (dispatch schema name)

inductive Call where
  | component (name : String) (schema : Schema)
  | dispatch (name : String) (schema : Schema)

def Call.part : Call → Build Registration
  | .component name schema => buildComponent name schema
  | .dispatch name schema => Builder.dispatch schema name

/-- Calls one after another, with how each of them ends. A call that ends in a fault stops no
other. -/
def runCalls : List Call → StateM Builder (List (Except WalkFault Registration))
  | [] => return []
  | call :: rest => do
      let outcome ← call.part.run
      return outcome :: (← runCalls rest)

end Builder

end SchemaCatalog
