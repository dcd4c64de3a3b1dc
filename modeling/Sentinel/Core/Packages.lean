/-
# What the program takes from elsewhere

The functions of third-party packages and of the machine that the modelled
code calls, as one parameter: the URL, version, digest and time-zone
libraries, the debug rendering of text, and the inspection of a file. A
theorem states what it needs of them as a hypothesis.
-/
import Sentinel.Core.Time
import Sentinel.Lib.IpAddr

namespace Sentinel

inductive Host where
  | domain (name : String)
  | ipv4 (octets : List UInt8)
  | ipv6 (groups : List UInt16)
  deriving DecidableEq, Repr

/-- The parts of a parsed URL that the program reads. -/
structure Url where
  scheme : String
  username : String
  password : Option String
  host : Option Host
  path : String
  query : Option String
  fragment : Option String
  deriving DecidableEq, Repr

/-- The functions the program calls but does not define. -/
structure Packages where
  /-- `Url::parse`. -/
  parseUrl : String → Option Url
  /-- Whether `VersionReq::parse` accepts a text. -/
  parsesVersionReq : String → Bool
  /-- SHA-256. -/
  sha256 : List UInt8 → List UInt8
  /-- A zone of the bundled time-zone database: an instant's civil hour and
  its offset from UTC in seconds. -/
  timeZone : String → Option (Timestamp → ℤ × ℤ)
  /-- `str::parse::<Timestamp>`: an instant from its RFC 3339 text. -/
  parseTimestamp : String → Option Timestamp
  /-- `{:?}` of a text. -/
  debug : String → String
  /-- A file's metadata, as whether it is a regular file and its length, or
  the error of inspecting it. -/
  metadata : String → Except String (Bool × ℕ)

/-- Nothing parses, no zone is known, every digest is empty. -/
instance : Inhabited Packages where
  default :=
    { parseUrl := fun _ => none
      parsesVersionReq := fun _ => false
      sha256 := fun _ => []
      timeZone := fun _ => none
      parseTimestamp := fun _ => none
      debug := id
      metadata := fun _ => .error "" }

end Sentinel
