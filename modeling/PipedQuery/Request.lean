import PipedQuery.Field

/-!
What a position may need from the backend, and the keys under which at most one fetch is under
way. Samples of values have no key: every one is fetched anew.
-/

set_option autoImplicit false
set_option relaxedAutoImplicit false

namespace PipedQuery

inductive Request where
  | indices
  | fields (index : String)
  | values (index field : String) (type : FieldType)
deriving DecidableEq

inductive FetchKey where
  | indices
  | fields (index : String)
deriving DecidableEq

namespace Request

def key : Request → Option FetchKey
  | indices => some .indices
  | fields index => some (.fields index)
  | values _ _ _ => none

end Request
end PipedQuery
