/-!
# Failed fetches

Why a page could not be fetched. Each cause carries the URL that was asked for.
-/

namespace PriceTracker

/-- Why a page could not be fetched. -/
inductive FetchError where
  /-- The answer has a status outside the two hundreds. -/
  | status (url : String) (code : Nat)
  /-- The answer says that it is no HTML. -/
  | contentMismatch (url : String) (contentType : String)
  /-- No answer came in time. -/
  | timeout (url : String)
  /-- The connection failed. -/
  | network (url : String) (cause : String)
  deriving DecidableEq, Repr

namespace FetchError

/-- The URL that was asked for. -/
def url : FetchError → String
  | .status url _ | .contentMismatch url _ | .timeout url | .network url _ => url

/-- The wording of the error. -/
def message : FetchError → String
  | .status url code => s!"HTTP {code} for {url}"
  | .contentMismatch url contentType => s!"Expected HTML from {url}, got '{contentType}'"
  | .timeout url => s!"Request timeout for {url}"
  | .network url cause => s!"Network error for {url}: {cause}"

end FetchError

end PriceTracker
