/-! Input that no source can be written for. -/

namespace JsxGen

inductive SchemaFault where
  | emptyName
  | unnameable
  | bindingWithoutModel
  | collectionWithoutModel
  | elementWithoutType
  | eventWithoutAction
  | unknownOperator (operator : String)
  | mutationWithoutState
  | stateWithoutMutation
  | severalTemplates
  deriving DecidableEq

/-- The stem of a path is the part of it that a state variable stands for. -/
inductive InputError where
  | pathTooShort (path : List String)
  | badStem (stem path : List String)
  | unknownAction (action : String)
  | schema (location : String) (fault : SchemaFault)
  deriving DecidableEq

def SchemaFault.reason : SchemaFault → String
  | .emptyName => "name must not be empty"
  | .unnameable => "name has no identifier characters"
  | .bindingWithoutModel => "data binding has no model"
  | .collectionWithoutModel => "collection has no model"
  | .elementWithoutType => "componentType must not be empty"
  | .eventWithoutAction => "action must not be empty"
  | .unknownOperator operator => "unknown condition operator '" ++ operator ++ "'"
  | .mutationWithoutState => "mutation action has no state parameter"
  | .stateWithoutMutation => "state parameters are only valid on Amplify.Mutation"
  | .severalTemplates => "a collection must have a single item template child"

def InputError.message : InputError → String
  | .pathTooShort _ => "keyPath needs a length larger than 1 to build nested state object"
  | .badStem stem path =>
    "State prefix [" ++ ", ".intercalate stem ++ "] cannot address key path [" ++
      ", ".intercalate path ++ "]"
  | .unknownAction action => action ++ " is not a valid action."
  | .schema location fault => "Invalid schema at " ++ location ++ ": " ++ fault.reason

end JsxGen
