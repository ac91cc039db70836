import EntityScaffold.Files.FileTree
import EntityScaffold.Noted
import EntityScaffold.Text.Case

/-!
Documents from files. A file with another extension than the usual ones is read all the same.
-/
namespace EntityScaffold

def documentSuffixes : List String := [".edmx", ".xml"]

structure SourceDocument where
  source : Option String
  content : List UInt8

def FileTree.loadDocument (t : FileTree) (file : String) : Noted SourceDocument := do
  let p := Path.ofString file
  match t.find? p with
  | .error e => Noted.fail (.unreachable e)
  | .ok (some (.file content)) =>
    if Text.lower p.suffix ∉ documentSuffixes then Noted.note (.unusualSuffix p.text)
    return ⟨some p.text, content.data.toList⟩
  | .ok _ =>
    Noted.note (.fileNotFound p.text)
    Noted.fail (.fileNotFound p.text)

end EntityScaffold
