/-
# The files of the Console's web application

`asset_response` serves a file of the directory `dist` if its canonical path is inside the
canonical directory, and the page `index.html` where there is no such file. The page is read
without that test, so that a link in its place leads out of the directory.
-/

import Mathlib.Data.List.Defs

namespace Tunnara.Console.WebApp

/-- A component of a path. -/
inductive Component
  /-- `Prefix`, a drive of Windows for example. -/
  | drive (name : String)
  | rootDir
  | curDir
  | parentDir
  | normal (name : String)

/-- A path without links, as its components. -/
abbrev Canonical := List String

/-- What the standard library makes of paths; `P` is `PathBuf`. -/
structure Platform (P : Type) where
  /-- `Path::new`. -/
  path : String → P
  components : String → List Component
  push : P → String → P
  join : P → P → P

/-- A state of the file system: where paths lead, and the files there. -/
structure FileSystem (P : Type) where
  canonicalize : P → Option Canonical
  isFile : Canonical → Bool
  bytes : Canonical → Option (List UInt8)
  /-- The bytes as UTF-8. -/
  text : Canonical → Option String

/-- An answer without its headers. A body that comes from a file names the path it was read
from. -/
inductive Response (P : Type)
  /-- `SERVICE_UNAVAILABLE`, with the page that says so. -/
  | notAvailable (mountPath : String)
  /-- `BAD_REQUEST`. -/
  | invalidPath
  /-- `NOT_FOUND`. -/
  | notFound
  /-- `rewrite_index_html` of the text of the file. -/
  | page (file : P) (html mountPath : String)
  | asset (file : P) (bytes : List UInt8)

variable {P : Type} [DecidableEq P] (platform : Platform P) (fs : FileSystem P)

/-- `replace('\\', "/")` after `trim_start_matches('/')`, and then component by component. -/
def normalizeAssetPath (path : String) : Option P :=
  let trimmed := (path.toList.dropWhile (· = '/')).map fun c => if c = '\\' then '/' else c
  (platform.components (String.ofList trimmed)).foldlM
    (fun output component => match component with
      | .normal value => some (platform.push output value)
      | .curDir => some output
      | .drive _ | .rootDir | .parentDir => none)
    (platform.path "")

def isInside (path root : P) : Bool :=
  match fs.canonicalize path with
  | none => false
  | some path => match fs.canonicalize root with
    | none => false
    | some root => root.isPrefixOf path

/-- `dist_dir.join("index.html")`. -/
def indexPath (dist : P) : P := platform.join dist (platform.path "index.html")

/-- `index_response`; `dist` is what `dist_dir` answers. -/
def indexResponse (dist : Option P) (mountPath : String) : Response P :=
  match dist with
  | none => .notAvailable mountPath
  | some dist => match (fs.canonicalize (indexPath platform dist)).bind fs.text with
    | none => .notAvailable mountPath
    | some html => .page (indexPath platform dist) html mountPath

/-- There is no file inside the directory at the path. -/
def fallsBack (dist relative : P) : Bool :=
  relative = platform.path "" || relative = platform.path "index.html" ||
    !isInside fs (platform.join dist relative) dist ||
    !((fs.canonicalize (platform.join dist relative)).any fs.isFile)

def assetResponse (dist : Option P) (path mountPath : String) : Response P :=
  match dist with
  | none => indexResponse platform fs none mountPath
  | some dist => match normalizeAssetPath platform path with
    | none => .invalidPath
    | some relative =>
      if fallsBack platform fs dist relative then indexResponse platform fs (some dist) mountPath
      else
        let asset := platform.join dist relative
        match (fs.canonicalize asset).bind fs.bytes with
        | none => .notFound
        | some bytes => .asset asset bytes

/-- The path that the answer's bytes were read from. -/
def Response.served : Response P → Option P
  | .page file _ _ | .asset file _ => some file
  | .notAvailable _ | .invalidPath | .notFound => none

/-- Every file whose bytes are in the answer is in the directory. -/
def Confined (dist : Option P) (path mountPath : String) : Prop :=
  ∀ file ∈ (assetResponse platform fs dist path mountPath).served, ∃ root ∈ dist,
    isInside fs file root = true

variable {platform fs} {dist : P} {path mountPath : String}

omit [DecidableEq P] in
theorem confined_index_iff :
    (∀ file, (indexResponse platform fs (some dist) mountPath).served = some file →
        isInside fs file dist = true) ↔
      (((fs.canonicalize (indexPath platform dist)).bind fs.text).isSome →
        isInside fs (indexPath platform dist) dist = true) := by
  unfold indexResponse
  dsimp only
  cases (fs.canonicalize (indexPath platform dist)).bind fs.text with
  | none => exact ⟨nofun, nofun⟩
  | some html => exact ⟨fun h _ => h _ rfl, fun h file hmem => Option.some.inj hmem ▸ h rfl⟩

theorem isInside_of_not_fallsBack {relative : P} (h : fallsBack platform fs dist relative = false) :
    isInside fs (platform.join dist relative) dist = true := by
  simp only [fallsBack, Bool.or_eq_false_iff, Bool.not_eq_false'] at h
  exact h.1.2

variable (platform fs) in
/-- The answer stays in the directory, unless the page takes the place of a file that is not
there and is itself a link that leads out. -/
theorem confined_iff (dist : Option P) (path mountPath : String) :
    Confined platform fs dist path mountPath ↔
      ∀ root ∈ dist, ∀ relative ∈ normalizeAssetPath platform path,
        fallsBack platform fs root relative = true →
        ((fs.canonicalize (indexPath platform root)).bind fs.text).isSome →
        isInside fs (indexPath platform root) root = true := by
  unfold Confined assetResponse
  cases dist with
  | none => exact ⟨nofun, nofun⟩
  | some root =>
    dsimp only
    cases normalizeAssetPath platform path with
    | none => exact ⟨nofun, nofun⟩
    | some relative =>
      dsimp only
      simp only [Option.mem_def, Option.some.injEq, exists_eq_left', forall_eq']
      split
      · rename_i hfalls
        rw [confined_index_iff]
        exact ⟨fun h _ => h, fun h => h hfalls⟩
      · rename_i hfile
        have hinside := isInside_of_not_fallsBack (Bool.eq_false_iff.2 hfile)
        refine ⟨fun _ hfalls => absurd hfalls hfile, fun _ file hmem => ?_⟩
        split at hmem
        · cases hmem
        · cases hmem
          exact hinside

/-- Paths as lists of names; a text is one name. -/
def plainPlatform : Platform (List String) where
  path text := if text = "" then [] else [text]
  components text := [.normal text]
  push path name := path ++ [name]
  join path relative := path ++ relative

/-- `/dist/index.html` is a link to `/etc/page.html`. -/
def linkedPage : FileSystem (List String) where
  canonicalize path := if path = ["dist", "index.html"] then some ["etc", "page.html"] else some path
  isFile path := path = ["etc", "page.html"]
  bytes _ := some []
  text _ := some ""

theorem not_confined_linked : ¬ Confined plainPlatform linkedPage (some ["dist"]) "login" "" := by
  intro h
  obtain ⟨root, hroot, hinside⟩ := h ["dist", "index.html"] rfl
  cases hroot
  exact absurd hinside (by decide)

end Tunnara.Console.WebApp
