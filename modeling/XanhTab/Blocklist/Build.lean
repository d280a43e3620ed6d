import Mathlib.Logic.Function.Basic
import XanhTab.Blocklist.Hosts
import XanhTab.Text.Path

/-!
# Building a blocklist

`compile_hosts` and `merge_hosts_with_base` of `blocklist.rs` on a file system, call
by call.  A path is given as the directory that it leads to and a name there.  Any
call may fail, and a file whose writing fails keeps what has been written so far.
-/

namespace XanhTab.Blocklist.Build

open Function

/-! ## Files -/

/-- A directory and a name in it. -/
abbrev Place (D : Type) := D × List Char

inductive Node (D : Type)
  | file (content : ByteArray)
  | directory
  /-- A symbolic link, which may lead into no directory. -/
  | symlink (target : Option (Place D))

/-- What is at each place. -/
abbrev FileSystem (D : Type) := Place D → Option (Node D)

/-- Sets of the `fst` crate as files.  A file that has been written can be opened. -/
structure FstFormat (F : Type) extends FstCrate F where
  /-- What a builder has written when it has been given the keys. -/
  unfinished : List (List Char) → ByteArray
  encode : F → ByteArray
  decode : ByteArray → Option F
  decode_encode : ∀ set, decode (encode set) = some set

/-- The two files that are created. -/
inductive Temporary
  | nested | merged
  deriving DecidableEq, Repr

/-- A step that may fail. -/
inductive BuildStep
  | openBase
  | createParent (file : Temporary)
  | readInput (index : Nat)
  | create (file : Temporary)
  | header (file : Temporary)
  | insert (file : Temporary) (index : Nat)
  /-- The builder does not take the keys. -/
  | refuse (file : Temporary)
  | finish (file : Temporary)
  | rename (file : Temporary)
  | openCustom
  deriving DecidableEq, Repr

inductive Ending
  | finished (count : Nat)
  | failed (step : BuildStep)
  /-- A file has been truncated while it was mapped. -/
  | undefined
  deriving DecidableEq, Repr

/-- The text of a file that is read line by line. -/
def textOf (content : ByteArray) : HostsFile :=
  match String.fromUTF8? content with
  | some text => .readable text.toList
  | none => .unreadable "stream did not contain valid UTF-8"

def isUnreadable : HostsFile → Bool
  | .unreadable _ => true
  | .missing | .readable _ => false

variable {D F : Type} [DecidableEq D]

namespace FileSystem

/-- Follow symbolic links, of which a path may have 40. -/
def follow (fs : FileSystem D) : Nat → Place D → Option (Place D)
  | 0, _ => none
  | links + 1, place =>
      match fs place with
      | some (.symlink (some target)) => follow fs links target
      | some (.symlink none) => none
      | some .directory | some (.file _) | none => some place

/-- Where a file at the place is opened or created. -/
def resolve (fs : FileSystem D) (place : Place D) : Option (Place D) :=
  fs.follow 41 place

/-- `File::create`, with the place of the file. -/
def create (fs : FileSystem D) (place : Place D) : Option (Place D × FileSystem D) :=
  (fs.resolve place).bind fun target =>
    match fs target with
    | some .directory => none
    | some (.file _) | some (.symlink _) | none =>
        some (target, update fs target (some (.file ByteArray.empty)))

/-- `rename` of a file or a link. -/
def rename (fs : FileSystem D) (source target : Place D) : Option (FileSystem D) :=
  match fs target with
  | some .directory => none
  | some (.file _) | some (.symlink _) | none =>
      (fs source).map fun node => update (update fs target (some node)) source none

/-- `remove_file`, whatever comes of it. -/
def removeFile (fs : FileSystem D) (place : Place D) : FileSystem D :=
  match fs place with
  | some .directory => fs
  | some (.file _) | some (.symlink _) | none => update fs place none

/-- An input of the hosts compiler. -/
def readInput (fs : FileSystem D) (place : Place D) (failed : Bool) : HostsFile :=
  match (fs.resolve place).bind fs with
  | none => .missing
  | some (.file content) => if failed then .unreadable "failed to read" else textOf content
  | some .directory | some (.symlink _) => .unreadable "is a directory"

end FileSystem

variable (format : FstFormat F) (fails : BuildStep → Bool)

/-- `open_fst`. -/
def openFst (step : BuildStep) (place : Place D) (fs : FileSystem D) : Option F :=
  if fails step then none
  else
    match fs place with
    | some (.file content) => format.decode content
    | some .directory | some (.symlink _) | none => none

/-- The insertion that fails. -/
def failingInsert (file : Temporary) (keys : List (List Char)) : Option Nat :=
  (List.range keys.length).find? fun index => fails (.insert file index)

/-- Create a file and build a set in it, from keys that are streamed from other files. -/
def buildFst (file : Temporary) (place : Place D) (keys : List (List Char))
    (intact : Place D → Bool) (fs : FileSystem D) : Ending × FileSystem D :=
  if fails (.create file) then (.failed (.create file), fs)
  else
    match fs.create place with
    | none => (.failed (.create file), fs)
    | some (target, fs) =>
        let unfinished keys := update fs target (some (.file (format.unfinished keys)))
        if fails (.header file) then (.failed (.header file), unfinished [])
        else if !intact target then (.undefined, unfinished [])
        else
          match failingInsert fails file keys with
          | some index => (.failed (.insert file index), unfinished (keys.take index))
          | none =>
              match format.build keys with
              | .error _ => (.failed (.refuse file), unfinished keys)
              | .ok set =>
                  if fails (.finish file) then (.failed (.finish file), unfinished keys)
                  else
                    (.finished keys.length,
                      update fs target (some (.file (format.encode set))))

/-- Rename a file that is finished. -/
def publish (file : Temporary) (source target : Place D) :
    Ending × FileSystem D → Ending × FileSystem D
  | (.finished count, fs) =>
      if fails (.rename file) then (.failed (.rename file), fs)
      else
        match fs.rename source target with
        | none => (.failed (.rename file), fs)
        | some fs => (.finished count, fs)
  | stopped => stopped

/-- The inputs as they are read. -/
def readInputs (inputs : List (Place D)) (fs : FileSystem D) : List HostsFile :=
  inputs.mapIdx fun index place => fs.readInput place (fails (.readInput index))

/-- The place with another extension. -/
def withExtension (extension : List Char) (place : Place D) : Place D :=
  (place.1, Path.withExtension extension place.2)

/-- The file that both functions build their sets in. -/
def mergedFst (output : Place D) : Place D :=
  withExtension "fst.tmp".toList output

def customFst (output : Place D) : Place D :=
  withExtension "custom.fst.tmp".toList output

/-- `compile_hosts`.  Its keys are in memory. -/
def compileHosts (inputs : List (Place D)) (output : Place D) (fs : FileSystem D) :
    Ending × FileSystem D :=
  let files := readInputs fails inputs fs
  match collect ∅ files with
  | .error _ => (.failed (.readInput (files.findIdx isUnreadable)), fs)
  | .ok domains =>
      if fails (.createParent .nested) then (.failed (.createParent .nested), fs)
      else
        publish fails .nested (mergedFst output) output
          (buildFst format fails .nested (mergedFst output) (sorted domains)
            (fun _ => true) fs)

/-- The union of the base and the custom set.  Both are mapped while the file that
the hosts compiler has truncated, and then another one, are written. -/
def mergeSets (base : Place D) (baseSet : F) (truncated : Option (Place D)) (output : Place D)
    (fs : FileSystem D) : Ending × FileSystem D :=
  match openFst format fails .openCustom (customFst output) fs with
  | none => (.failed .openCustom, fs)
  | some customSet =>
      if truncated = some base then (.undefined, fs)
      else
        publish fails .merged (mergedFst output) output
          (buildFst format fails .merged (mergedFst output) (format.union baseSet customSet)
            (fun target => target ≠ base && target ≠ customFst output) fs)

/-- What is done after the steps that may fail. -/
def cleanUp (output : Place D) : Ending × FileSystem D → Ending × FileSystem D
  | (.undefined, fs) => (.undefined, fs)
  | (.finished count, fs) => (.finished count, fs.removeFile (customFst output))
  | (.failed step, fs) =>
      (.failed step, (fs.removeFile (customFst output)).removeFile (mergedFst output))

/-- `merge_hosts_with_base`. -/
def mergeHostsWithBase (base : Place D) (inputs : List (Place D)) (output : Place D)
    (fs : FileSystem D) : Ending × FileSystem D :=
  match openFst format fails .openBase base fs with
  | none => (.failed .openBase, fs)
  | some baseSet =>
      if fails (.createParent .merged) then (.failed (.createParent .merged), fs)
      else
        cleanUp output
          (match compileHosts format fails inputs (customFst output) fs with
          | (.finished _, compiled) =>
              mergeSets format fails base baseSet (fs.resolve (mergedFst (customFst output)))
                output compiled
          | stopped => stopped)

end XanhTab.Blocklist.Build
