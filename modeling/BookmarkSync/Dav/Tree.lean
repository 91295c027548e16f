import BookmarkSync.Dav.Message
import BookmarkSync.Text.Split

/-!
# `BookmarkSync.Dav.Tree` — a server of files and collections

A tree holds files and collections under their paths, which have no slash at their ends; the root is
always there. It replies as a server of such resources does: a collection or a file can only be made in a
collection that is there, and never in place of a collection.
-/

namespace BookmarkSync.Dav

structure Tree where
  /-- The contents of the files. -/
  files : List (String × List UInt8) := []
  collections : List String := []
deriving DecidableEq, Repr

namespace Tree

/-- A path without slashes at its end. -/
def trimEnd (path : List Char) : List Char := (path.reverse.dropWhile (· = '/')).reverse

/-- What stands before the last slash of a path. -/
def parent (path : List Char) : List Char := ((path.reverse.dropWhile (· != '/')).drop 1).reverse

def file? (t : Tree) (path : String) : Option (List UInt8) := (t.files.find? (·.1 == path)).map Prod.snd

/-- Whether a path is the root or a collection. -/
def isCollection (t : Tree) (path : String) : Bool := path = "" || t.collections.contains path

def contains (t : Tree) (path : String) : Bool := t.isCollection path || (t.file? path).isSome

/-- Whether the resource that a path lies in is a collection. -/
def hasParent (t : Tree) (path : String) : Bool := t.isCollection (String.ofList (parent path.toList))

/-- Sets the content of a file. -/
def putFile (t : Tree) (path : String) (content : List UInt8) : Tree :=
  { t with files := (path, content) :: t.files.filter (·.1 != path) }

def answerPropfind (t : Tree) (path : String) : Status := if t.contains path then 207 else 404

def answerMkcol (t : Tree) (path : String) : Status × Tree :=
  if t.contains path then (405, t)
  else if !t.hasParent path then (409, t)
  else (201, { t with collections := path :: t.collections })

def answerPut (t : Tree) (path : String) (content : List UInt8) : Status × Tree :=
  if t.isCollection path then (405, t)
  else if !t.hasParent path then (409, t)
  else (if (t.file? path).isSome then 204 else 201, t.putFile path content)

/-- How the tree replies to a request. -/
def reply : Server Tree := fun r t =>
  let path := String.ofList (trimEnd r.path.toList)
  match r.method with
  | .propfind => (.answer (t.answerPropfind path) [], t)
  | .mkcol =>
    let (status, t) := t.answerMkcol path
    (.answer status [], t)
  | .put =>
    let (status, t) := t.answerPut path r.body
    (.answer status [], t)
  | .get =>
    match t.file? path with
    | some content => (.answer 200 content, t)
    | none => (.answer 404 [], t)

end Tree

end BookmarkSync.Dav
