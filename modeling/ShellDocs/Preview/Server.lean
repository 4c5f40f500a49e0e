import ShellDocs.Files.Resolve
import ShellDocs.Preview.Html
import ShellDocs.Preview.PageName
import ShellDocs.Preview.Target
import ShellDocs.Text.Utf8

/-! # The preview server

Requests for paths are answered from one directory. Pages of markdown are sent as HTML, all
other files as they are. A request is answered in two steps: whether its file is there, and
what it holds.
-/

namespace ShellDocs.Preview

open Files

inductive Method where
  | get
  | head
  | other
deriving DecidableEq

structure Response where
  status : Nat
  contentType : Option String := none
  cacheControl : Option String := none
  allow : Option String := none
  body : ByteArray := .empty
deriving DecidableEq

/-- The files that are served and the title of every page. -/
structure Site where
  directory : String
  title : String

def plainText : String := "text/plain; charset=utf-8"

def pageType : String := "text/html; charset=utf-8"

def fileType (path : String) : String :=
  match Path.extension? path with
  | some "yml" | some "yaml" => "text/yaml; charset=utf-8"
  | some "txt" => plainText
  | some "html" => pageType
  | some "css" => "text/css"
  | some "js" => "text/javascript"
  | some "png" => "image/png"
  | some "svg" => "image/svg+xml"
  | _ => "application/octet-stream"

namespace Response

def noPage : Response where
  status := 404

def notAllowed : Response where
  status := 405
  allow := some "GET,HEAD"

def notFound (name : String) : Response where
  status := 404
  contentType := some plainText
  body := (name ++ " not found").toUTF8

def page (html : String) : Response where
  status := 200
  contentType := some pageType
  cacheControl := some "no-cache"
  body := html.toUTF8

def file (path : String) (contents : ByteArray) : Response where
  status := 200
  contentType := some (fileType path)
  body := contents

def failed (name : String) (e : IoError) : Response where
  status := 500
  contentType := some plainText
  body := ("Error serving " ++ name ++ ": " ++ e.message).toUTF8

end Response

namespace Site

def path (site : Site) (name : String) : String := Path.join site.directory name

def isPage (name : String) : Bool := ['d', 'm', '.'].isPrefixOf name.toList.reverse

/-- The answer for a file that was there, by what reading it gives. -/
def reply (site : Site) (name : String) : Except IoError ByteArray → Response
  | .ok contents =>
    if isPage name then .page (renderPage site.title (Text.decodeLossy contents))
    else .file (site.path name) contents
  | .error e => .failed name e

/-- The answer for a name, whose file is looked for in the first tree and read in the
second. -/
def answerBetween (site : Site) (found read : FileTree) (name : String) : Response :=
  if found.isFileAt (site.path name) then site.reply name (read.readBytes (site.path name))
  else .notFound name

/-- The answer to a request whose file is looked for in the first tree and read in the second. -/
def getBetween (site : Site) (found read : FileTree) (path : String) : Response :=
  match pageName? path with
  | some name => site.answerBetween found read name
  | none => .noPage

def get (site : Site) (t : FileTree) (path : String) : Response := site.getBetween t t path

/-- Only paths below the top are served. An answer to `HEAD` has no body. -/
def respond (site : Site) (t : FileTree) (method : Method) (path : String) : Response :=
  if path.toList.head? ≠ some '/' then .noPage
  else match method with
    | .get => site.get t path
    | .head => { site.get t path with body := .empty }
    | .other => .notAllowed

/-- The answer to a request for a target, if it is one. -/
def request? (site : Site) (t : FileTree) (method : Method) (target : String) : Option Response :=
  (targetPath? target).map (site.respond t method)

end Site

end ShellDocs.Preview
