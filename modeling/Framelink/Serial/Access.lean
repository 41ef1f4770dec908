/-!
# Access to a serial device

Whether a device is opened for reading, for writing, or for both.
-/

namespace Framelink
namespace Serial

/-- What a device is opened for. -/
inductive Access
  | readWrite
  | readOnly
  | writeOnly
  deriving DecidableEq, Repr

namespace Access

/-- The access that the two low bits of open flags ask for. -/
def ofFlags (flags : Int32) : Access :=
  if flags &&& 3 = 0 then .readOnly
  else if flags &&& 3 = 1 then .writeOnly
  else .readWrite

/-- The accesses with their names. -/
def named : List (String × Access) :=
  [("ReadWrite", .readWrite), ("ReadOnly", .readOnly), ("WriteOnly", .writeOnly)]

/-- The access of a name. -/
def ofName? (name : String) : Option Access := named.lookup name

/-- The name of an access. -/
def name : Access → String
  | .readWrite => "ReadWrite"
  | .readOnly => "ReadOnly"
  | .writeOnly => "WriteOnly"

/-- The short name of an access in labels. -/
def shortName : Access → String
  | .readWrite => "rw"
  | .readOnly => "ro"
  | .writeOnly => "wo"

end Access
end Serial
end Framelink
