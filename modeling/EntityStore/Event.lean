/-!
# Reports of failures

What is reported when something fails and the program goes on.
-/

namespace EntityStore

/-- A report: which operation failed, what happened, with which detail and where. -/
structure Event where
  operation : String
  message : String
  detail : Option String := none
  context : Option String := none
  deriving DecidableEq, Repr

end EntityStore
