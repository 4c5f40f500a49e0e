import ShellDocs.Preview.Server
import ShellDocs.Proofs.Files.Resolve
import ShellDocs.Proofs.Preview.PageName

/-! # Requests stay below the directory

The name that a request comes to leads from every directory to something below it. The answer
depends on no file but the one under that name, and on none at all when the request comes to no
name.
-/

namespace ShellDocs.Preview

open Files

variable {path name : String}

section Names

/-- A name that leads from every directory to something below it. -/
structure StaysBelow (name : String) : Prop where
  ne_empty : name ≠ ""
  not_isAbsolute : ¬ Path.isAbsolute name
  not_endsInSlash : ¬ Path.endsInSlash name
  backslash_not_mem : '\\' ∉ name.toList
  /-- No segment is empty, stays where it is or leads upwards. -/
  isName : ∀ segment ∈ Path.rawSegments name, IsName segment
  dot_mem : ∃ last, (Path.rawSegments name).getLast? = some last ∧ '.' ∈ last.toList
  components : ∀ directory, Path.components (Path.join directory name) =
    Path.components directory ++ Path.rawSegments name

theorem empty_mem_rawSegments (h : Path.endsInSlash name) : "" ∈ Path.rawSegments name := by
  obtain ⟨front, rfl⟩ := Path.exists_of_endsInSlash h
  have hraw := Path.rawSegments_append_slash front ""
  rw [String.append_empty] at hraw
  rw [hraw]
  exact List.mem_append_right _ (by decide)

theorem staysBelow_of_pageName? (h : pageName? path = some name) : StaysBelow name := by
  obtain ⟨front, last, hname, hdot, hback, rfl⟩ := exists_trail_of_pageName? h
  have hne : front ++ [last] ≠ [] := by simp
  have hraw := rawSegments_trailKey hname hne
  have hempty : ¬ IsName "" := by decide
  constructor
  case ne_empty => exact trailKey_ne_empty (hname last (by simp))
  case not_isAbsolute => exact not_isAbsolute_trailKey hname
  case not_endsInSlash =>
    intro hs
    have hm := empty_mem_rawSegments hs
    rw [hraw] at hm
    exact hempty (hname "" hm)
  case backslash_not_mem => exact hback
  case isName =>
    rw [hraw]
    exact hname
  case dot_mem =>
    rw [hraw]
    exact ⟨last, List.getLast?_concat, hdot⟩
  case components =>
    intro directory
    rw [hraw, ← below_eq_join hname hne, Path.components_below hname]

/-- The kind of a file that is served is decided by its name, wherever the directory is. -/
theorem fileType_path (site : Site) (h : pageName? path = some name) :
    fileType (site.path name) = fileType name := by
  obtain ⟨front, last, hname, -, -, rfl⟩ := exists_trail_of_pageName? h
  have hlast : IsName last := hname last (by simp)
  have hpath : Path.segments (site.path (trailKey (front ++ [last]))) =
      (Path.segments site.directory ++ front) ++ [last] := by
    rw [Site.path, ← below_eq_join hname (by simp), Path.segments_below hname, List.append_assoc]
  have hfile := Path.fileName?_of_segments hlast hpath
  have hfile' := Path.fileName?_of_segments hlast (segments_trailKey hname)
  rw [fileType, fileType, Path.extension?, Path.extension?, hfile, hfile']

end Names

section Answers

/-- The answer to a request for `name`, by whether there is a file and by what reading it gives.
A page is sent as HTML of its decoded text, any other file as it is. -/
def answerFor (title name : String) (isFile : Bool) (contents : Except IoError ByteArray) :
    Response :=
  if isFile then
    match contents with
    | .ok bytes =>
      if Site.isPage name then .page (renderPage title (Text.decodeLossy bytes))
      else .file name bytes
    | .error e => .failed name e
  else .notFound name

/-- A request that sees the same tree in both steps gets the answer of the server. -/
theorem Site.getBetween_self (site : Site) (t : FileTree) (path : String) :
    site.getBetween t t path = site.get t path := rfl

theorem getBetween_eq_answerFor (site : Site) (h : pageName? path = some name)
    (found read : FileTree) :
    site.getBetween found read path = answerFor site.title name
      (found.isFileAt (site.path name)) (read.readBytes (site.path name)) := by
  simp only [Site.getBetween, h, Site.answerBetween, answerFor]
  cases read.readBytes (site.path name) with
  | ok bytes => simp only [Site.reply, Response.file, fileType_path site h]
  | error e => rfl

theorem getBetween_of_none (site : Site) (h : pageName? path = none) (found read : FileTree) :
    site.getBetween found read path = .noPage := by
  simp only [Site.getBetween, h]

/-- How a site treats a request path. The file of a request may be looked for in one tree and read
in another. -/
structure Confines (site : Site) (path : String) : Prop where
  noPage : pageName? path = none → ∀ found read, site.getBetween found read path = .noPage
  staysBelow : ∀ name, pageName? path = some name → StaysBelow name
  answer : ∀ name, pageName? path = some name → ∀ found read,
    site.getBetween found read path = answerFor site.title name
      (found.isFileAt (Path.join site.directory name))
      (read.readBytes (Path.join site.directory name))
  /-- A request that sees one tree finds no file, or what the file holds. -/
  get : ∀ name, pageName? path = some name → ∀ t,
    t.isFileAt (Path.join site.directory name) = false ∧ site.get t path = .notFound name ∨
      ∃ loc bytes, t.resolve (Path.join site.directory name) = .ok (.file loc bytes) ∧
        site.get t path = answerFor site.title name true (.ok bytes)
  /-- Trees that agree on the one file are not told apart by any request. -/
  respond : ∀ method t u,
    (∀ name, pageName? path = some name →
      t.isFileAt (Path.join site.directory name) = u.isFileAt (Path.join site.directory name) ∧
        t.readBytes (Path.join site.directory name) =
          u.readBytes (Path.join site.directory name)) →
    site.respond t method path = site.respond u method path

end Answers

end ShellDocs.Preview
