import ScriptHost.Config.Basic
import ScriptHost.Disk.Basic
import ScriptHost.FileSystem

/-!
# A disk as a file system

The file system that scripts are run on by default.  Its working directory is the one of the
settings, made absolute once and for all, or the current directory of the disk, if that is still
there.
-/

namespace ScriptHost

/-- The settings with their working directory made absolute. -/
def FolderSettings.pinned (s : FolderSettings) (d : Disk) : Except Failure FolderSettings :=
  match s.currentDirectory with
  | none => .ok s
  | some path => (d.resolved path).map fun p => { s with currentDirectory := some p.toString }

/-- A disk as a file system with the folders of pinned settings. -/
def Disk.fileSystem (d : Disk) (s : FolderSettings) : FileSystem where
  kind := "PhysicalFileSystem"
  currentDirectory _ :=
    match s.currentDirectory with
    | some path => .ok (some path)
    | none => d.here.map some
  binFolder := .ok (some s.binFolder)
  cacheFolder := .ok (some s.cacheFolder)
  packagesFolder := .ok (some s.packagesFolder)
  fileExists _ path := d.isFile path
  fileText _ path := d.textOf path

end ScriptHost
