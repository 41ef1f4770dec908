import Framelink.Failure.Basic

/-!
# Why a server could not be bound

The classification of the codes that binding an address can fail with.
-/

namespace Framelink

/-- Why an address could not be bound. -/
inductive BindCause
  | permissionDenied
  | addressInUse
  | badDescriptor
  | alreadyBound
  | notSocket
  | addressNotAvailable
  | familyNotSupported
  | fault
  | symlinkLoop
  | nameTooLong
  | noEntry
  /-- Any other code, or none at all. -/
  | other (code : Option Int)
  deriving DecidableEq, Repr

namespace BindCause

/-- The cause that a failure's code stands for. -/
def ofFailure (failure : Failure) : BindCause :=
  match failure.code? with
  | some 13 => .permissionDenied
  | some 98 => .addressInUse
  | some 9 => .badDescriptor
  | some 22 => .alreadyBound
  | some 88 => .notSocket
  | some 99 => .addressNotAvailable
  | some 97 => .familyNotSupported
  | some 14 => .fault
  | some 40 => .symlinkLoop
  | some 36 => .nameTooLong
  | some 2 => .noEntry
  | code => .other code

/-- The name of a cause. -/
def name : BindCause → String
  | .permissionDenied => "PermissionDenied"
  | .addressInUse => "AddressInUse"
  | .badDescriptor => "BadDescriptor"
  | .alreadyBound => "AlreadyBound"
  | .notSocket => "NotSocket"
  | .addressNotAvailable => "AddressNotAvailable"
  | .familyNotSupported => "FamilyNotSupported"
  | .fault => "Fault"
  | .symlinkLoop => "SymlinkLoop"
  | .nameTooLong => "NameTooLong"
  | .noEntry => "NoEntry"
  | .other (some code) => s!"Other(Some({code}))"
  | .other none => "Other(None)"

/-- A cause in words. -/
def describe : BindCause → String
  | .permissionDenied => "the address is protected, or access to it was denied"
  | .addressInUse => "the address is already in use"
  | .badDescriptor => "the socket is not a valid file descriptor"
  | .alreadyBound => "the socket is already bound to an address"
  | .notSocket => "the descriptor does not refer to a socket"
  | .addressNotAvailable => "the address is not available from the local machine"
  | .familyNotSupported => "the address is not valid for the socket's address family"
  | .fault => "the address is outside the user address space"
  | .symlinkLoop => "too many symbolic links in the address"
  | .nameTooLong => "the address path is too long"
  | .noEntry => "a component of the address path does not exist"
  | .other (some code) => s!"unknown error {code}"
  | .other none => "unknown error"

end BindCause
end Framelink
