import Millwork.Json.Encoding
import Millwork.Service.Envelope

/-!
# Requests

What a client sends: a method, a path, headers, and a body with the type of its content. A body is
read as JSON only if its type says that it is, in the encoding that its first octets show; a body
that is too large is not read at all.
-/

namespace Millwork

structure Request where
  method : String
  path : String
  headers : List (String × String)
  contentType : Option String
  body : Option String

namespace Request

/-- A header name as headers are compared: hyphens and underscores are one, and so are a letter and
its capital. -/
def headerKey (name : String) : List Char :=
  (Text.capitals name.toList).map fun c => if c = '-' then '_' else c

/-- The values of a header, put together if it is given more than once. -/
def header? (request : Request) (name : String) : Option String :=
  let found := request.headers.filter fun header => headerKey header.1 == headerKey name
  if found.isEmpty then none else some (", ".intercalate (found.map (·.2)))

def verb (request : Request) : String := .ofList (Text.capitals request.method.toList)

/-- The text with each escape of an ASCII character replaced by the character. Escapes of other
octets stay: no path of the service holds any. -/
def unescaped : List Char → List Char
  | '%' :: high :: low :: rest =>
    match Json.hexValue? high, Json.hexValue? low with
    | some a, some b =>
      if a < 8 then .ofNat (16 * a + b) :: unescaped rest
      else '%' :: high :: low :: unescaped rest
    | _, _ => '%' :: unescaped (high :: low :: rest)
  | c :: rest => c :: unescaped rest
  | [] => []

/-- The path without what follows a question mark or a number sign. Line ends and tabs do not
count. -/
def plainPath (request : Request) : List Char :=
  let written := request.path.toList.filter fun c => c != '\t' && c != '\n' && c != '\r'
  unescaped (written.takeWhile fun c => c != '?' && c != '#')

def mediaType (request : Request) : List Char :=
  let given := (request.contentType.getD "").toList
  Text.lower (Text.trim (given.takeWhile (· != ';')))

def isJson (request : Request) : Bool :=
  let type := request.mediaType
  type == "application/json".toList ||
    "application/".toList.isPrefixOf type && "+json".toList.isSuffixOf type

/-- The body as far as its size is known. One that is sent in chunks counts as empty. -/
def content (request : Request) : String :=
  if request.header? "Transfer-Encoding" == some "chunked" then "" else request.body.getD ""

def size (request : Request) : Nat := request.content.utf8ByteSize

/-- Whether a size is over a limit; a limit that is no number has no answer. -/
def isOver? (limit : Json) (size : Nat) : Option Bool :=
  match limit with
  | .null => some false
  | .number a => some (decide (a < .whole size))
  | .bool yes => some (decide (yes.toNat < size))
  | _ => none

def document? (request : Request) : Option String :=
  let octets := request.content.toUTF8.toList.map UInt8.toNat
  match Json.Encoding.ofOctets octets with
  | .single =>
    match request.content.toList with
    | '\uFEFF' :: rest => some (.ofList rest)
    | _ => some request.content
  | encoding => encoding.text? octets

end Request

end Millwork
