import JsxGen.Schema.Property
import JsxGen.Text.Identifier
import JsxGen.Text.Words

/-! The names that a source gives to what the schema calls by names of its own. -/

namespace JsxGen

open Text (sanitize capitalize lowerFirst pascal)

def functionName (component : String) : String := sanitize (pascal component)

/-- The name of an element or model as the start of a variable's name. -/
def variableStem (name : String) : String := lowerFirst (sanitize name)

def StateRef.getter (ref : StateRef) : String :=
  variableStem ref.component ++ capitalize ref.property

def StateRef.setter (ref : StateRef) : String := "set" ++ capitalize ref.getter

def handlerName (element event : String) : String := variableStem element ++ capitalize event

/-- The setter of the state behind a form field. -/
def fieldSetter (field : String) : String := "set" ++ capitalize (sanitize field)

def relatedVariable (model : String) : String := variableStem model ++ "Items"

/-- What a prop is bound to where its own name is taken by a value made from it. -/
def propAlias (key : String) : String := key ++ "Prop"

def dataStoreName (key : String) : String := key ++ "DataStore"

/-- The attribute that takes the handler of an event. -/
def eventAttribute (event : String) : String := "on" ++ capitalize event

end JsxGen
