import PlayClient.Schema.Resolution

/-!
Imports of generated models. A model needs no import of its siblings, which are in its package.
-/

set_option autoImplicit false

namespace PlayClient

def importOf (package name : String) : String := package ++ "." ++ name

namespace Dialect

def siblingImport (dialect : Dialect) (modelPackage : String) (type : SchemaType) :
    Except ResolutionError (Option String) := do
  if dialect.isPrimitive type.innermost then return none
  let name ← dialect.typeOf type.innermost
  return if (dialect.table.imports.lookup name).isSome then none else some (importOf modelPackage name)

def siblingImports (dialect : Dialect) (modelPackage : String) (model : Model) :
    Except ResolutionError (List String) := do
  let found ← model.properties.mapM fun property => dialect.siblingImport modelPackage property.type
  return found.filterMap id

def dropSiblingImports (dialect : Dialect) (modelPackage : String) (model : Model) :
    Except ResolutionError Model := do
  let siblings ← dialect.siblingImports modelPackage model
  return { model with imports := model.imports.filter (· ∉ siblings) }

end Dialect

end PlayClient
