import DigestSync.Name.Basic
import DigestSync.Time

set_option autoImplicit false

/-! # Interests and data

An interest asks for data under a name and waits for a limited time.  Data
answers every interest whose name its own name starts with, and may be kept in
caches while it is fresh.
-/

namespace DigestSync

/-- A request for data. -/
structure Interest where
  name : Name
  /-- How long the request waits. -/
  lifetime : Duration
deriving DecidableEq, Repr, Inhabited

/-- A named piece of content. -/
structure Data where
  name : Name
  content : Bytes
  /-- How long caches may serve the data. -/
  freshness : Duration
deriving DecidableEq, Repr, Inhabited

/-- The data answers an interest in the name. -/
def Data.answers (data : Data) (name : Name) : Bool := name.isPrefixOf data.name

end DigestSync
