/-!
What can be wrong with a URL, or with a file.
-/

namespace SchemaFold

/-- Why a text is not a URL. -/
inductive Url.Fault
  | relativeWithoutBase
  | emptyHost
  | invalidDomain
  | invalidCharacter
  | invalidPort
  | invalidIpv4
  | invalidIpv6
  deriving DecidableEq, Repr

/-- The wording of a fault. -/
def Url.Fault.message : Url.Fault → String
  | .relativeWithoutBase => "relative URL without a base"
  | .emptyHost => "empty host"
  | .invalidDomain => "invalid international domain name"
  | .invalidCharacter => "invalid domain character"
  | .invalidPort => "invalid port number"
  | .invalidIpv4 => "invalid IPv4 address"
  | .invalidIpv6 => "invalid IPv6 address"

/-- Why a file cannot be read, or a program not be started. -/
inductive Files.Fault
  | notFound
  | isDirectory
  | notDirectory
  | nameTooLong
  | notUtf8
  | nulInPath
  | nulInArgument
  | notPermitted
  deriving DecidableEq, Repr

/-- The wording of a fault. -/
def Files.Fault.message : Files.Fault → String
  | .notFound => "No such file or directory (os error 2)"
  | .isDirectory => "Is a directory (os error 21)"
  | .notDirectory => "Not a directory (os error 20)"
  | .nameTooLong => "File name too long (os error 36)"
  | .notUtf8 => "stream did not contain valid UTF-8"
  | .nulInPath => "file name contained an unexpected NUL byte"
  | .nulInArgument => "nul byte found in provided data"
  | .notPermitted => "Permission denied (os error 13)"

end SchemaFold
