import PriceTracker.Web.Response

/-!
# Fetching

A transport carries a request to a server and brings the response back. `fetch` asks for the page
of a URL and follows redirections, at most nine of them; a fault is always told of the URL that
was asked for first.
-/

namespace PriceTracker

/-- Why there is no response. -/
inductive TransportFault where
  /-- No response came in time. -/
  | timedOut
  /-- The server cannot be reached, or the connection broke. -/
  | unreachable (cause : String)
  deriving DecidableEq, Repr

/-- Carries requests for URLs. -/
abbrev Transport := Url → Except TransportFault Response

/-- The transport of a machine without a network. -/
def noTransport : Transport := fun url =>
  .error (.unreachable s!"no connection to {url}")

/-- The URL as it is put to the server: without the fragment and the credentials. -/
def Url.asked (url : Url) : Url :=
  { url.withoutFragment with username := "", password := "" }

/-- How many redirections are followed. -/
def maxRedirects : Nat := 9

/-- The last response on the way from a URL, with so many redirections followed. -/
def follow (transport : Transport) : Nat → Url → Except TransportFault Response
  | redirects, url =>
    if !url.isWeb then .error (.unreachable "URL scheme is not allowed")
    else
      match transport url.asked with
      | .error fault => .error fault
      | .ok response =>
        match response.redirect? url, redirects with
        | none, _ => .ok response
        | some _, 0 => .error (.unreachable "too many redirects")
        | some next, n + 1 => follow transport n next

/-- The fault of a fetch, told of a URL. -/
def TransportFault.toFetchError (url : String) : TransportFault → FetchError
  | .timedOut => .timeout url
  | .unreachable cause => .network url cause

/-- The page of a URL, with faults told of the given text. -/
def fetchAs (transport : Transport) (name : String) (url : Url) : Except FetchError String :=
  match follow transport maxRedirects url with
  | .error fault => .error (fault.toFetchError name)
  | .ok response => response.page name

/-- The page of a URL. -/
def fetch (transport : Transport) (url : Url) : Except FetchError String :=
  fetchAs transport url.toString url

/-- The page of a written URL. A text that is no URL leads to no server. -/
def fetchText (transport : Transport) (text : String) : Except FetchError String :=
  match Url.parse text with
  | .error cause => .error (.network text cause.message)
  | .ok url => fetchAs transport text url

end PriceTracker
