import PriceTracker.Text.Blank
import PriceTracker.Text.Charset
import PriceTracker.Url.Parse
import PriceTracker.Web.FetchError

/-!
# Responses

A response of a web server and what a crawl makes of it. `Response.page` is the text of a
successful HTML page; a response without a media type counts as one.
-/

namespace PriceTracker

/-- A response with its header fields, in order. -/
structure Response where
  status : Nat
  /-- The names and values of the header fields. -/
  fields : List (String × List UInt8) := []
  body : List UInt8 := []
  deriving DecidableEq, Repr, Inhabited

namespace Response

/-- The text in small ASCII letters. -/
def lowerCase (s : String) : String :=
  String.ofList (s.toList.map Char.toLower)

/-- A byte that may stand around a header value. -/
def isBlankByte (b : UInt8) : Bool :=
  b == 0x20 || b == 0x09

/-- The value of the first header field of a name, without the blanks around it. Case does not
count in names. -/
def field? (r : Response) (name : String) : Option (List UInt8) :=
  (r.fields.find? fun f => lowerCase f.1 == lowerCase name).map fun f =>
    ((f.2.dropWhile isBlankByte).reverse.dropWhile isBlankByte).reverse

/-- The text of bytes that are visible ASCII characters, spaces or tabs. -/
def visibleText? (bytes : List UInt8) : Option String :=
  if bytes.all fun b => b == 0x09 || (0x20 ≤ b && b < 0x7F) then
    some (String.ofList (bytes.map fun b => Char.ofNat b.toNat))
  else none

/-- The text of the Content-Type field, empty if there is none or it is no visible text. -/
def contentType (r : Response) : String :=
  ((r.field? "content-type").bind visibleText?).getD ""

/-- Whether the status is one of success. -/
def isSuccess (r : Response) : Bool :=
  200 ≤ r.status && r.status < 300

/-- Whether the first text occurs in the second. -/
def occursIn (part : List Char) : List Char → Bool
  | [] => part.isEmpty
  | c :: rest => part.isPrefixOf (c :: rest) || occursIn part rest

/-- Whether a Content-Type admits an HTML page: it is empty or contains `text/html`. -/
def admitsHtml (contentType : String) : Bool :=
  contentType.isEmpty || occursIn "text/html".toList contentType.toList

/-! ## The text of the body -/

/-- The text without quotation marks around it. -/
def unquoted (cs : List Char) : List Char :=
  match cs with
  | '"' :: rest => if rest.getLast? == some '"' then rest.dropLast else cs
  | _ => cs

/-- The value of a parameter of a media type. -/
def parameter? (mediaType : String) (name : String) : Option String :=
  ((mediaType.toList.splitOn ';').drop 1).findSome? fun part =>
    let key := part.takeWhile (· != '=')
    if lowerCase (String.ofList (Text.trimBy Text.isBlank key)) == name then
      some (String.ofList (unquoted (Text.trimBy Text.isBlank (part.drop (key.length + 1)))))
    else none

/-- The encoding of the body: that of the `charset` parameter, and UTF-8 if it names none. -/
def charset (r : Response) : Text.Charset :=
  ((parameter? r.contentType "charset").bind Text.Charset.ofLabel?).getD .utf8

/-- The text of the body. -/
def text (r : Response) : String :=
  String.ofList (r.charset.decode r.body)

/-- The page that the response to a request for a URL holds. -/
def page (url : String) (r : Response) : Except FetchError String :=
  if !r.isSuccess then .error (.status url r.status)
  else if !admitsHtml r.contentType then .error (.contentMismatch url r.contentType)
  else .ok r.text

/-! ## Redirection -/

/-- Whether the status sends the reader elsewhere. -/
def isRedirection (r : Response) : Bool :=
  [301, 302, 303, 307, 308].contains r.status

/-- Where the response to a request for a URL sends the reader. -/
def redirect? (r : Response) (url : Url) : Option Url :=
  if r.isRedirection then
    ((r.field? "location").bind Text.Utf8.decode?).bind fun location =>
      (Url.resolve url (String.ofList location)).toOption
  else none

/-! ## Lemmas -/

end Response

end PriceTracker
