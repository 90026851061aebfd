import JsxGen.Editing
import JsxGen.FieldUpdate
import JsxGen.Json.Writer
import JsxGen.SourceFile
import JsxGen.Proofs.FieldUpdate
import JsxGen.Proofs.OrderedMap
import JsxGen.Proofs.Outcome
import JsxGen.Proofs.Usage
import JsxGen.Proofs.PropertyExpr
import JsxGen.Proofs.Action
import JsxGen.Proofs.StateHooks
import JsxGen.Proofs.SourceFile
import JsxGen.Proofs.StateWiring
import JsxGen.Proofs.DeclaredNames
import JsxGen.Proofs.Js.Layout
import JsxGen.Proofs.Js.Quoted
import JsxGen.Proofs.Js.Reader
import JsxGen.Proofs.Js.Readable
import JsxGen.Proofs.Js.RoundTrip
import JsxGen.Proofs.Js.Variables
import JsxGen.Proofs.InitialState
import JsxGen.Proofs.ElementNames
import JsxGen.Proofs.UsageOrder
import JsxGen.Proofs.StateOrder
import JsxGen.Proofs.Collection
import JsxGen.Proofs.ItemScope
import JsxGen.Proofs.Js.TemplateLiteral
import JsxGen.Proofs.Js.Runtime
import JsxGen.Proofs.PropertyValue
import JsxGen.Proofs.Json.Held
import JsxGen.Proofs.Schema.Property
import JsxGen.Proofs.Schema.Parameter
import JsxGen.Proofs.Schema.Event
import JsxGen.Proofs.Schema.Element
import JsxGen.Proofs.Schema.Binding
import JsxGen.Proofs.Schema.Component
import JsxGen.Proofs.Schema.DataSchema
import JsxGen.Proofs.Success
import JsxGen.Proofs.FieldAccess
import JsxGen.Proofs.Outline
import JsxGen.Proofs.Js.Indentation
import JsxGen.Proofs.Js.ListMethods
import JsxGen.Proofs.RelatedQueries
import JsxGen.Proofs.RelatedItems
import JsxGen.Proofs.RelatedVariables
import JsxGen.Proofs.Names
import JsxGen.Proofs.DerivedNames
import JsxGen.Proofs.Validation
import JsxGen.Proofs.NestedCopy
import JsxGen.Proofs.FieldSetter
import JsxGen.Proofs.UnknownOperator
import JsxGen.Proofs.ActionFault
import JsxGen.Proofs.CollectionOrder
import JsxGen.Proofs.EventHandlers
import JsxGen.Proofs.VariantOverrides
import JsxGen.Proofs.Js.ArrowBody
import JsxGen.Proofs.ConcatPart
import JsxGen.Proofs.Js.Escapes
import JsxGen.Proofs.Js.AttributeText
import JsxGen.Proofs.NumberSource
