import Mathlib

/-! Errors that leave a request handler. -/

namespace PactAgent.Common

inductive ApiErrorType where
  | authenticationError
  | permissionError
  | invalidRequestError
  | notFoundError
  | conflictError
  | rateLimitError
  | internalError
  deriving DecidableEq, Repr

structure AppError where
  statusCode : Nat
  type : ApiErrorType
  code : String
  message : String
  deriving DecidableEq, Repr

def authenticationError (message : String) : AppError := ⟨401, .authenticationError, "authentication_required", message⟩
def permissionError (message code : String) : AppError := ⟨403, .permissionError, code, message⟩
def invalidRequest (message code : String) : AppError := ⟨400, .invalidRequestError, code, message⟩
def notFound (message code : String) : AppError := ⟨404, .notFoundError, code, message⟩
def conflict (message code : String) : AppError := ⟨409, .conflictError, code, message⟩

/-- What a handler can throw: an `AppError`, the unique-constraint error of the
database client, or any other `Error`. -/
inductive Failure where
  | app (error : AppError)
  | uniqueConstraint
  | other (message : String)
  deriving DecidableEq, Repr

end PactAgent.Common
