import Absm.Foundation.Dict
import Absm.Foundation.FileTree

/-! Saving a model and its metadata below the registry's root, and loading them from there. -/

namespace Absm

/-- The exceptions that the registry raises or lets through. -/
inductive RegistryError where
  /-- A `ValueError`. -/
  | valueError (message : String)
  /-- A `RuntimeError`. -/
  | runtimeError (message : String)
  /-- A `FileNotFoundError` that the registry raises itself. -/
  | fileNotFoundError (message : String)
  /-- What `torch` or `json` raise about a content that they cannot read or a value that they cannot
  write. -/
  | formatError
  deriving DecidableEq, Repr

/-! ### Paths -/

/-- A path that has not been looked up: whether it starts at the root, and its parts. -/
structure PurePath where
  /-- Whether the path starts at the root. -/
  absolute : Bool
  /-- The parts, as parsing leaves them: none is empty or a single point. -/
  parts : List String
  deriving DecidableEq

/-- Split a text at its separators. -/
def splitParts (text : List Char) : List (List Char) :=
  -- There is one part more than there are slashes.
  text.foldr (fun c parts =>
    if c = '/' then [] :: parts
    else
      match parts with
      | part :: rest => (c :: part) :: rest
      | [] => [[c]]) [[]]

/-- The path that a text spells. -/
def PurePath.ofText (text : String) : PurePath where
  -- Empty parts and single dots are dropped, and two dots are kept.
  absolute := text.toList.head? = some '/'
  parts := ((splitParts text.toList).map String.ofList).filter fun part => part ≠ "" ∧ part ≠ "."

/-- Continue a path with another one, which replaces it when it starts at the root. -/
def PurePath.join (base path : PurePath) : PurePath :=
  -- An absolute path replaces what it is joined to.
  if path.absolute then path else ⟨base.absolute, base.parts ++ path.parts⟩

/-- What a process knows about where it runs, and its setting `MODEL_REGISTRY_DIR`. -/
structure Host where
  /-- The current directory. -/
  cwd : Location
  /-- The home directory that a tilde, perhaps with a user's name, stands for. -/
  home : String → Option PurePath
  /-- The setting. -/
  modelRegistryDir : String

/-- `Path.expanduser`: replace a leading tilde by a home directory. -/
def Host.expanduser (host : Host) (path : PurePath) : Except RegistryError PurePath :=
  -- Only the first part of a relative path can name a user.
  match path.absolute, path.parts with
  | false, first :: rest =>
    if first.toList.head? = some '~' then
      match host.home first with
      | some directory => .ok ⟨directory.absolute, directory.parts ++ rest⟩
      | none => .error (.runtimeError "Could not determine home directory.")
    else .ok path
  | _, _ => .ok path

/-- Follow parts from a place on; without links two points lead to the parent. -/
def followParts (place : Location) (parts : List String) : Location :=
  -- Without symbolic links, two dots leave the directory.
  parts.foldl (fun place part => if part = ".." then place.dropLast else place ++ [part]) place

/-- `Path.resolve`, where there are no links. -/
def Host.resolve (host : Host) (path : PurePath) : Location :=
  -- A relative path starts at the working directory.
  followParts (if path.absolute then [] else host.cwd) path.parts

/-- Resolve the base directory of the registry. -/
def resolveBaseDir (host : Host) : Except RegistryError Location :=
  -- The configured text may name a user and be relative.
  (host.expanduser (.ofText host.modelRegistryDir)).map host.resolve

/-- Resolve a model's path and confine it to the registry's root. -/
def validateModelPath (host : Host) (path : PurePath) : Except RegistryError Location :=
  if ".." ∈ path.parts then .error (.valueError "path traversal is not allowed")
  else do
    let baseDir ← resolveBaseDir host
    let expanded ← host.expanduser (if path.absolute then path else PurePath.join ⟨true, baseDir⟩ path)
    let resolved := host.resolve expanded
    -- A path is relative to itself, too.
    if baseDir <+: resolved then .ok resolved
    else .error (.valueError "model path must be under registry base dir")

/-- The property `suffix` of a name: from its last point on, unless that is its first or last character. -/
def suffix (name : List Char) : List Char :=
  -- A name that starts or ends with its only dot has no suffix.
  let behind := (name.reverse.takeWhile (· ≠ '.')).length
  if 0 < behind ∧ behind + 1 < name.length then name.drop (name.length - behind - 1) else []

/-- The name with another suffix in the place of its own one, if it has one. -/
def withSuffix (name suffixed : List Char) : List Char :=
  -- The suffix is replaced at the end of the name.
  name.take (name.length - (suffix name).length) ++ suffixed

/-- The place of the metadata of the model at a place. -/
def metadataPath (modelPath : Location) : Except RegistryError Location :=
  -- The sidecar's name is the model's name with one more suffix.
  match modelPath.getLast? with
  | none => .error (.valueError "PosixPath('/') has an empty name")
  | some name =>
    .ok (modelPath.dropLast ++
      [String.ofList (withSuffix name.toList (suffix name.toList ++ ".json".toList))])

/-! ### Models and metadata -/

/-- How `torch` and `json` write weights of a type `W` and values of a type `V` as contents. -/
structure Formats (W V C : Type) where
  /-- `torch.save` of a model's state. -/
  saveState : W → C
  /-- `torch.load`, and `load_state_dict` of what it returns into a new model. -/
  loadState : C → Except RegistryError W
  /-- A string as a value. -/
  text : String → V
  /-- A dictionary as a value. -/
  mapping : Dict String V → V
  /-- `json.dumps` with an indentation and sorted keys. -/
  dumps : V → Except RegistryError C
  /-- `json.loads`. -/
  loads : C → Except RegistryError V

variable {W V C : Type}

/-- The arguments of `save_model`, and what the clock says meanwhile. -/
structure SaveCall (W V : Type) where
  /-- The weights of the model. -/
  model : W
  /-- The path. -/
  path : PurePath
  /-- The metadata. -/
  metadata : Dict String V
  /-- The time at which the metadata are written, as a text. -/
  savedAt : String

/-- The document that is written for some metadata, which may overwrite the time. -/
def payload (formats : Formats W V C) (call : SaveCall W V) : Dict String V :=
  -- The caller's metadata come last and can replace the time.
  call.metadata.entries.foldl (fun payload entry => payload.set entry.1 entry.2)
    (Dict.empty.set "saved_at" (formats.text call.savedAt))

/-- Save weights, and then metadata beside them. -/
def saveModel (formats : Formats W V C) (host : Host) (call : SaveCall W V) :
    Session RegistryError C Unit := do
  -- Weights come first; whatever fails between the two writes leaves them without metadata.
  let modelPath ← Session.ofExcept (validateModelPath host call.path)
  Session.makeDirs modelPath.dropLast
  Session.write modelPath (formats.saveState call.model)
  let metadataPath ← Session.ofExcept (metadataPath modelPath)
  let text ← Session.ofExcept (formats.dumps (formats.mapping (payload formats call)))
  Session.write metadataPath text

/-- Load weights, and then the metadata beside them. -/
def loadModel (formats : Formats W V C) (host : Host) (path : PurePath) :
    Session RegistryError C (W × V) := do
  -- The weights are read before the metadata are looked for.
  let modelPath ← Session.ofExcept (validateModelPath host path)
  let state ← Session.read modelPath
  let model ← Session.ofExcept (formats.loadState state)
  let metadataPath ← Session.ofExcept (metadataPath modelPath)
  if ← Session.pathExists metadataPath then
    let text ← Session.read metadataPath
    let metadata ← Session.ofExcept (formats.loads text)
    return (model, metadata)
  else Session.ofExcept (.error (.fileNotFoundError "metadata file not found"))

end Absm
