import DeepRouter.Library.GoStrings

/-! # Errors of the relay -/

namespace DeepRouter.Relay

open GoStrings

structure ApiError where
  (errorCode message : String)
  statusCode : Int := 500
  skipRetry : Bool := false
deriving DecidableEq

def isChannelError (err : ApiError) : Bool := hasPrefix err.errorCode "channel:"

def ApiError.final (errorCode message : String) (statusCode : Int) : ApiError :=
  { errorCode, message, statusCode, skipRetry := true }

end DeepRouter.Relay
