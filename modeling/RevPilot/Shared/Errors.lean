import RevPilot.Library.PyValue

/-! Exceptions of the shared kernel and of the Python runtime. -/
namespace RevPilot.Shared
open Library

/-- `DomainError`: stable code, message, details and the retryable flag. -/
structure DomainError where
  code : String
  message : String
  details : List (PyKey × PyValue) := []
  retryable : Bool := false

inductive PyError : Type
  | domain (error : DomainError)
  | typeError
  | attributeError
  | valueError
  | validationError
  | overflowError
  | invalidOperation
  | runtime (text : String)

/-- `error.code` of a domain error. -/
def PyError.code? : PyError → Option String
  | .domain error => some error.code
  | _ => none

def authorizationError (message : String) (details : List (PyKey × PyValue) := []) : PyError :=
  .domain { code := "FORBIDDEN", message := message, details := details }

def notFoundError (message : String) (details : List (PyKey × PyValue) := []) : PyError :=
  .domain { code := "NOT_FOUND", message := message, details := details }

def validationError (message : String) (details : List (PyKey × PyValue) := []) : PyError :=
  .domain { code := "VALIDATION_ERROR", message := message, details := details }

def tenancyViolationError (message : String) (details : List (PyKey × PyValue) := []) : PyError :=
  .domain { code := "TENANCY_VIOLATION", message := message, details := details }

end RevPilot.Shared
