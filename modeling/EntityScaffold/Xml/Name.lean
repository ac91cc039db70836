/-!
Characters and names of a document. A name may hold colons anywhere; where namespaces count, the one
colon of a sound name stands between its label and its local part, and an unsound name is taken as a
whole.
-/
namespace EntityScaffold.Xml

def isChar (c : Char) : Bool :=
  let n := c.toNat
  n == 9 || n == 10 || n == 13 || (0x20 ≤ n && n ≤ 0xD7FF) || (0xE000 ≤ n && n ≤ 0xFFFD) ||
    0x10000 ≤ n

def isSpace (c : Char) : Bool := c == ' ' || c == '\t' || c == '\n' || c == '\r'

def skipSpace (cs : List Char) : List Char := cs.dropWhile isSpace

def space? : List Char → Option (List Char)
  | c :: rest => if isSpace c then some (skipSpace rest) else none
  | [] => none

def nameStartSpans : List (Nat × Nat) :=
  [(0x41, 0x5A), (0x5F, 0x5F), (0x61, 0x7A), (0xC0, 0xD6), (0xD8, 0xF6), (0xF8, 0x2FF),
    (0x370, 0x37D), (0x37F, 0x1FFF), (0x200C, 0x200D), (0x2070, 0x218F), (0x2C00, 0x2FEF),
    (0x3001, 0xD7FF), (0xF900, 0xFDCF), (0xFDF0, 0xFFFD), (0x10000, 0xEFFFF)]

def nameExtraSpans : List (Nat × Nat) :=
  [(0x2D, 0x2E), (0x30, 0x39), (0xB7, 0xB7), (0x300, 0x36F), (0x203F, 0x2040)]

def within (spans : List (Nat × Nat)) (c : Char) : Bool :=
  spans.any fun s => s.1 ≤ c.toNat && c.toNat ≤ s.2

def isNameStart (c : Char) : Bool := within nameStartSpans c

def isNameChar (c : Char) : Bool := within nameStartSpans c || within nameExtraSpans c

def isOpenStart (c : Char) : Bool := isNameStart c || c == ':'

def isTokenChar (c : Char) : Bool := isNameChar c || c == ':'

def byteLength (cs : List Char) : Nat := cs.foldl (fun n c => n + c.utf8Size) 0

def nameLimit : Nat := 50000

def bounded? (name : List Char) : Option (List Char) :=
  if byteLength name ≤ nameLimit then some name else none

def run? (isAllowed : Char → Bool) (cs : List Char) : Option (List Char × List Char) :=
  match cs.takeWhile isAllowed with
  | [] => none
  | run => (bounded? run).map fun run => (run, cs.dropWhile isAllowed)

def plainName? : List Char → Option (List Char × List Char)
  | c :: rest => if isNameStart c then run? isNameChar (c :: rest) else none
  | [] => none

def name? : List Char → Option (List Char × List Char)
  | c :: rest => if isOpenStart c then run? isTokenChar (c :: rest) else none
  | [] => none

structure QName where
  label : Option (List Char)
  name : List Char
  deriving DecidableEq, Repr

namespace QName

def text (q : QName) : List Char :=
  match q.label with
  | some l => l ++ ':' :: q.name
  | none => q.name

/-- A name that is taken as a whole keeps its colons. -/
def isSound (q : QName) : Bool := !q.name.contains ':'

end QName

def wholeName? (cs : List Char) : Option (QName × List Char) :=
  (run? isTokenChar cs).map fun (name, rest) => (⟨none, name⟩, rest)

def qname? (cs : List Char) : Option (QName × List Char) :=
  match plainName? cs with
  | some (first, ':' :: rest) =>
    match plainName? rest with
    | some (_, ':' :: _) | none => wholeName? cs
    | some (second, rest) => some (⟨some first, second⟩, rest)
  | some (first, rest) => some (⟨none, first⟩, rest)
  | none => if cs.head? == some ':' then wholeName? cs else none

def word? : List Char → List Char → Option (List Char)
  | [], cs => some cs
  | _ :: _, [] => none
  | w :: ws, c :: cs => if w = c then word? ws cs else none

def isQuote (c : Char) : Bool := c == '\x22' || c == '\x27'

def quoted? : List Char → Option (List Char × List Char)
  | [] => none
  | q :: rest =>
    if isQuote q then
      match rest.dropWhile (· != q) with
      | [] => none
      | _ :: more => some (rest.takeWhile (· != q), more)
    else none

def equals? (cs : List Char) : Option (List Char) :=
  match skipSpace cs with
  | '=' :: rest => some (skipSpace rest)
  | _ => none

/-- A line ends with one line feed however it was written. -/
def unifyLines : List Char → List Char
  | '\r' :: '\n' :: rest => '\n' :: unifyLines rest
  | '\r' :: rest => '\n' :: unifyLines rest
  | c :: rest => c :: unifyLines rest
  | [] => []

end EntityScaffold.Xml
