import EntityScaffold.Xml.Content
import EntityScaffold.Xml.Declaration
import EntityScaffold.Xml.Doctype
import EntityScaffold.Xml.Encoding

/-!
Whole documents. A document is one element with comments and instructions around it, and may begin
with a declaration and a document type. It is taken when nothing ended its reading and the last
finding was no error.
-/
namespace EntityScaffold.Xml

def doctypeStart : List Char := "<!DOCTYPE".toList

def document (d : Declaration) (cs : List Char) : Scan Element := do
  if !d.hasKnownVersion then Scan.warn
  let cs ← skipMiscAll cs
  let cs ← match word? doctypeStart cs with
    | some rest => do skipMiscAll (← doctype rest)
    | none => pure cs
  let (element, cs) ← outermost (← word? ['<'] cs)
  guard (← skipMiscAll cs).isEmpty
  return element

def ofText? (text : List Char) : Option Element := do
  guard (text.all isChar)
  let (d, cs) ← opening? text
  let (element, p) ← ((document d cs).run { size := byteLength text }).run
    { standalone := d.standalone }
  if p.findings.endInError then none else some element

def ofBytes? (bytes : List UInt8) : Option Element := (decode? bytes).bind ofText?

end EntityScaffold.Xml
