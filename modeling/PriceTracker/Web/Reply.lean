import PriceTracker.Url.Basic
import PriceTracker.Web.FetchError

/-!
# Replies

What a crawl sees of the web: for each URL a page or the reason why there is none, and the time
until it knows.
-/

namespace PriceTracker

/-- The answer to a request. -/
structure Reply where
  /-- How long the answer takes, in milliseconds. -/
  delay : Nat := 0
  /-- The text of the page, or why there is none. -/
  body : Except FetchError String

/-- What answers requests. -/
abbrev Web := Url → Reply

end PriceTracker
