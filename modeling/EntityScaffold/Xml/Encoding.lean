import EntityScaffold.Xml.CodePage
import EntityScaffold.Xml.Declaration
import EntityScaffold.Xml.SevenBit

/-!
From the bytes of a document to its characters. A byte order mark decides before anything else; an
unmarked document whose first bytes can only be those of wider units is read as such; otherwise the
encoding that the document declares for itself counts, and UTF-8 when it declares none.
-/
namespace EntityScaffold.Xml

inductive Encoding where
  | utf8
  | utf16 (bigEndian : Bool)
  | utf32 (bigEndian : Bool)
  | latin1
  | ascii
  | page (p : CodePage)
  | wide (w : WideEncoding)
  | sevenBit (s : SevenBit)
  deriving DecidableEq, Repr

def latin1Names : List String :=
  ["iso-8859-1", "iso-ir-100", "iso8859-1", "iso_8859-1", "iso-latin-1", "l1", "latin1",
    "csisolatin1", "cp819", "ibm819"]

def asciiNames : List String :=
  ["us-ascii", "ascii", "us", "ansi_x3.4-1968", "ansi_x3.4-1986", "iso646-us", "iso-ir-6",
    "csascii", "cp367", "ibm367"]

/-- The encodings by their names; units wider than a byte cannot be declared in single bytes. -/
def Encoding.ofName? (name : List Char) : Option Encoding :=
  let name := String.ofList (name.map Char.toLower)
  if ["utf-8", "utf8"].contains name then some .utf8
  else if latin1Names.contains name then some .latin1
  else if asciiNames.contains name then some .ascii
  else
    ((CodePage.ofName? name).map .page).or <|
      ((WideEncoding.ofName? name).map .wide).or ((SevenBit.ofName? name).map .sevenBit)

def Encoding.decode? (encoding : Encoding) (bytes : List UInt8) : Option (List Char) :=
  match encoding with
  | .utf8 => (String.fromUTF8? (ByteArray.mk bytes.toArray)).map String.toList
  | .utf16 bigEndian => (pairs? bigEndian bytes).bind ofUnits?
  | .utf32 bigEndian => (quads? bigEndian bytes).bind fun units => units.mapM scalar?
  | .latin1 => some (bytes.map fun b => Char.ofNat b.toNat)
  | .ascii => bytes.mapM fun b => if b < 128 then some (Char.ofNat b.toNat) else none
  | .page p => p.decode? bytes
  | .wide w => w.decode? bytes
  | .sevenBit s => s.decode? bytes

/-- The encoding that the first bytes settle, and the bytes behind a mark. -/
def settled? : List UInt8 → Option (Encoding × List UInt8)
  | 0xEF :: 0xBB :: 0xBF :: rest => some (.utf8, rest)
  | 0xFF :: 0xFE :: 0 :: 0 :: rest => some (.utf32 false, rest)
  | 0 :: 0 :: 0xFE :: 0xFF :: rest => some (.utf32 true, rest)
  | 0xFF :: 0xFE :: rest => some (.utf16 false, rest)
  | 0xFE :: 0xFF :: rest => some (.utf16 true, rest)
  | 0x3C :: 0 :: 0 :: 0 :: rest => some (.utf32 false, 0x3C :: 0 :: 0 :: 0 :: rest)
  | 0 :: 0 :: 0 :: 0x3C :: rest => some (.utf32 true, 0 :: 0 :: 0 :: 0x3C :: rest)
  | 0x3C :: 0 :: 0x3F :: 0 :: rest => some (.utf16 false, 0x3C :: 0 :: 0x3F :: 0 :: rest)
  | 0 :: 0x3C :: 0 :: 0x3F :: rest => some (.utf16 true, 0 :: 0x3C :: 0 :: 0x3F :: rest)
  | _ => none

def decode? (bytes : List UInt8) : Option (List Char) :=
  match settled? bytes with
  | some (encoding, rest) => encoding.decode? rest
  | none => do
    let (d, _) ← opening? (bytes.map fun b => Char.ofNat b.toNat)
    match d.encoding with
    | none => Encoding.utf8.decode? bytes
    | some name => (← Encoding.ofName? name).decode? bytes

end EntityScaffold.Xml
