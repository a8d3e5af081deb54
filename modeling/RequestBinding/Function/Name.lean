import RequestBinding.Record
import RequestBinding.Text.SnakeCase

/-!
# Names of generated functions

A record's functions are named by its modules and its own name in snake case, joined by underscores:
`api::Login` has `bind_api_login` and `validate_api_login`.
-/

namespace RequestBinding.Function

/-- The part of a function's name that tells the record. -/
def suffix (record : Record) : String :=
  "_".intercalate ((record.modulePath ++ [record.name]).map Text.toSnakeCase)

def bindName (record : Record) : String := "bind_" ++ suffix record

def validateName (record : Record) : String := "validate_" ++ suffix record

end RequestBinding.Function
