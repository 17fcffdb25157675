import PriceTracker.Crawl.Run

/-!
# Finite sites

A site with finitely many pages; every other URL is answered with a fault. As a URL is queued only
once, the links on the pages bound the number of turns that a run on the site takes, so
`Crawl.runOn` needs no bound from outside.
-/

namespace PriceTracker

/-- The pages of a site, and what becomes of a request for any other. -/
structure Site where
  pages : List (Url × Reply) := []
  elsewhere : Url → FetchError := fun url => .status url.toString 404

namespace Site

/-- The answer to a request: that of the first page with the URL. -/
def reply (site : Site) : Web := fun url =>
  match site.pages.find? (·.1 == url) with
  | some (_, reply) => reply
  | none => { body := .error (site.elsewhere url) }

/-- All that can be seen of the web without a network. -/
def offline : Site where
  elsewhere url := .network url.toString "no connection"

/-- The links that a page has as a root page and as a listing page. -/
def linksOf (url : Url) (reply : Reply) : List Url :=
  match reply.body with
  | .ok page => Catalog.categories page url ++ (Catalog.listing "" page url).nextPages
  | .error _ => []

/-- All links of the site. -/
def links (site : Site) : List Url :=
  site.pages.flatMap fun (url, reply) => linksOf url reply

end Site

namespace Crawl

variable {σ : Type}

/-- The number of turns that are enough for a run: one for each page that is queued or linked to,
and one to end it. -/
def turnsOn (site : Site) (c : Crawl σ) : Nat :=
  c.frontier.queue.length + site.links.length + 1

/-- Runs the crawl on a site, to be stopped at a time if one is given. -/
def runOn (site : Site) (s : Sink σ) (stop : Option Nat) (c : Crawl σ) :
    Option (Except RunFailure Tally) × Crawl σ :=
  c.run site.reply s stop (c.turnsOn site)

end Crawl

end PriceTracker
