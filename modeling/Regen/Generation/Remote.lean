import Regen.Settings.Basic
import Regen.Tool

/-!
# Generation from files outside the repository

Each target is compiled from the source root into the staging directory, by import path. Then
the relocations copy staged files over others.
-/

namespace Regen.Generation

/-- What the pass over the targets did. -/
structure RemoteResult where
  generated : List String
  /-- The paths that files were copied to. -/
  relocated : List String
  deriving DecidableEq

/-- Copies one staged file over another. -/
def relocate (staging : Path) (done : List String) (r : Relocation) : Session (List String) := do
  let source := staging.join r.source
  if ← Session.isFile source then
    Session.copyFile source (staging.join r.destination)
    return done ++ [r.destination]
  else if r.optional then
    Session.warn s!"Relocation source was not generated, skipping: {r.source}"
    return done
  else throw (.config (.notRelocatable r.source))

/-- Does all relocations, in order; the result is the destinations. -/
def relocateAll (s : Settings) (staging : Path) : Session (List String) :=
  s.config.relocations.foldlM (relocate staging) []

/-- The compiler's arguments for one target. -/
def remoteArguments (s : Settings) (root staging : Path) (t : Target) : List String :=
  let directory := if t.searchPath = "" then root else root.join t.searchPath
  let options := s.config.overrides.optionText
  [s!"-I{directory}", s!"--go_out={options}:{staging}", t.path]

/-- Compiles all targets, then relocates. -/
def generateRemote (s : Settings) (compiler : Tool.Compiler) (staging : Path) :
    Session RemoteResult := do
  match s.protoRoot with
  | none => throw (.config .noSourceRootForRemote)
  | some root =>
    s.config.targets.forM fun t => compiler.compile "go" (remoteArguments s root staging t)
    return ⟨s.config.targets.map (·.path), ← relocateAll s staging⟩

end Regen.Generation
