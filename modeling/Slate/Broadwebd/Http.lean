import Slate.Foundation.Text

/-!
# Fetching over HTTP

The requests and responses that broadwebd's HTTP transports exchange. URLs are parsed by a
library outside the repository, which is a parameter.
-/

namespace Slate.Broadwebd

inductive BroadwebdError where
  | io (error : String)
  | invalidProfile (profile : String)
  | invalidUrl (url : String)
  | missingPlugin (plugin : String)
  | request (error : String)
  | frameTooLarge (limit actual : Nat)
  | responseTooLarge (limit actual : Nat)
  | unsupportedRequest (request : String)
  deriving DecidableEq, Repr

inductive FetchPurpose where
  | navigation
  | subresource
  deriving DecidableEq, Repr

structure HttpFetchRequest where
  profile : String
  url : String
  transportId : Option String
  purpose : FetchPurpose
  suggestedDownloadFilename : Option String
  deriving DecidableEq, Repr

structure TransportHttpRequest where
  profile : String
  url : String
  purpose : FetchPurpose
  deriving DecidableEq, Repr

structure HttpHeader where
  name : String
  value : String
  deriving DecidableEq, Repr

inductive FetchDisposition where
  | renderHtml
  | download (suggestedFilename : String)
  | errorPage (statusCode : UInt16)
  deriving DecidableEq, Repr

structure FetchRouteInfo where
  profile : String
  transportId : String
  privacyBoundary : String
  purpose : FetchPurpose
  deriving DecidableEq, Repr

structure DownloadRecord where
  profile : String
  filename : String
  path : String
  sizeBytes : Nat
  contentType : Option String
  deriving DecidableEq, Repr

structure HttpFetchResponse where
  finalUrl : String
  statusCode : UInt16
  contentType : Option String
  headers : List HttpHeader
  body : List UInt8
  disposition : FetchDisposition
  route : Option FetchRouteInfo
  download : Option DownloadRecord
  deriving DecidableEq, Repr

def HttpFetchResponse.withRoute (response : HttpFetchResponse) (route : FetchRouteInfo) :
    HttpFetchResponse :=
  { response with route := some route }

/-- The parts of a parsed URL that the daemon reads. -/
structure Url where
  text : String
  scheme : String
  hostStr : Option String
  deriving DecidableEq, Repr

/-- The URL library: a text's URL, or the text of the parse error. -/
structure UrlLibrary where
  parse : String → Except String Url

def parseHttpUrl (library : UrlLibrary) (input : String) : Except BroadwebdError Url :=
  (library.parse input).mapError .invalidUrl

end Slate.Broadwebd
