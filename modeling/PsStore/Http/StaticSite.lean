import Mathlib.Data.List.Infix
import PsStore.Http.Routes

set_option relaxedAutoImplicit false
set_option autoImplicit false

/-!
# The built client

The static site of `http/static_files.rs`. The file services of the framework are fields of the
site: what they answer to a request is any answer. The ranges and the dates of a file answer are
among its headers.

## Main definitions

* `FileAnswer`, `StaticSite` — the answer of a file service, and the services of the build.
* `StaticSite.respond` — the answer to a request for a file, or `none` for the empty 404.
-/

namespace PsStore

/-- The headers of an answer. -/
abbrev HeaderMap := List (String × List UInt8)

/-- Sets a header, in place of its earlier values. -/
def HeaderMap.insert (headers : HeaderMap) (name : String) (value : List UInt8) : HeaderMap :=
  (headers.filter fun header => header.1 ≠ name) ++ [(name, value)]

/-- The answer of a file service. -/
structure FileAnswer where
  status : ℕ
  headers : HeaderMap
  content : List UInt8

/-- The client build directory, by the services that read it. -/
structure StaticSite where
  /-- The files of the hashed bundles. -/
  serveAssets : HttpRequest → FileAnswer
  /-- The files of the build root, without a directory index. -/
  serveRoot : HttpRequest → FileAnswer
  /-- The file `index.html`. -/
  serveIndex : HttpRequest → FileAnswer
  /-- The build has an `index.html`. -/
  indexIsFile : Bool

/-- The answer when it is not a 404 or a server error. -/
def found (answer : FileAnswer) : Option FileAnswer :=
  if answer.status ≠ 404 ∧ ¬(500 ≤ answer.status ∧ answer.status < 600) then some answer else none

/-- The answer is revalidated on every use. -/
def noCache (answer : FileAnswer) : FileAnswer :=
  { answer with
    headers := HeaderMap.insert answer.headers "cache-control" (toUtf8 "no-cache".toList) }

/-- A content type of text. -/
def isTextType (value : List Char) : Bool :=
  "text/".toList <+: value || "application/javascript".toList <+: value ||
    "application/json".toList <+: value

/-- Adds the character set to a text content type. -/
def withCharset (answer : FileAnswer) : FileAnswer :=
  match (answer.headers.lookup "content-type").bind headerText with
  | none => answer
  | some value =>
    if isTextType value = true ∧ ¬"charset".toList <:+: value then
      { answer with
        headers := HeaderMap.insert answer.headers "content-type"
          (toUtf8 (value ++ "; charset=utf-8".toList)) }
    else answer

/-- The request takes an HTML page. Media types are case-insensitive. -/
def acceptsHtml (request : HttpRequest) : Bool :=
  match request.accept.bind headerText with
  | some value => "text/html".toList <:+: value.map Char.toLower
  | none => false

/-- The request line of the `index.html` fallback: only the method and the headers stay. -/
def splitForFallback (request : HttpRequest) : HttpRequest :=
  { request with path := "/index.html".toList, query := none, body := .ok [] }

namespace StaticSite

variable (site : StaticSite)

/-- A bundle. An unknown bundle is a 404, never `index.html`. -/
def respondAsset (request : HttpRequest) (rest : List Char) : Option FileAnswer :=
  if rest = [] ∨ rest = ['/'] then none
  else (found (site.serveAssets { request with path := rest })).map withCharset

/-- A file of the build root, or `index.html` for a deep link. -/
def respondPage (request : HttpRequest) : Option FileAnswer :=
  let answer := if request.path = ['/'] then site.serveIndex request else site.serveRoot request
  match found answer with
  | some answer => some (noCache (withCharset answer))
  | none =>
    if hasExtension request.path ∨ ¬acceptsHtml request ∨ ¬site.indexIsFile then none
    else (found (site.serveIndex (splitForFallback request))).map (noCache ∘ withCharset)

/-- Answers one request for a file of the client build. -/
def respond (request : HttpRequest) : Option FileAnswer :=
  if request.method ≠ .get ∧ request.method ≠ .head then none
  else
    match assetsPath request.path with
    | some rest => site.respondAsset request rest
    | none => site.respondPage request

end StaticSite

end PsStore
