import EntityScaffold.Text.CaseTable

/-!
Upper case, lower case, and equality of letters without regard to case. A text may change its
length under either mapping; the capital sigma is the one letter whose lower case form looks at
its neighbours.
-/
namespace EntityScaffold.Text

def isUpper (c : Char) : Bool := inSpans uppercaseSpans c

def isLower (c : Char) : Bool := inSpans lowercaseSpans c

def lowerLetter (c : Char) : Char :=
  match shifted? lowerShifts c.toNat with
  | some n => Char.ofNat n
  | none => c

/-- Two letters match without regard to case when their folded forms are equal. -/
def foldCase (c : Char) : Char :=
  let l := lowerLetter c
  match foldPartners.lookup l.toNat with
  | some n => Char.ofNat n
  | none => l

def upperChar (c : Char) : List Char :=
  match upperExpansions.lookup c.toNat with
  | some ns => ns.map Char.ofNat
  | none =>
    match shifted? upperShifts c.toNat with
    | some n => [Char.ofNat n]
    | none => [c]

def upperChars (cs : List Char) : List Char := cs.flatMap upperChar

/-- Whether the first character that the sigma rule does not skip is a cased one. -/
def casedNext (cs : List Char) : Bool :=
  match cs.dropWhile (inSpans ignorableSpans) with
  | [] => false
  | c :: _ => inSpans casedSpans c

/-- A capital sigma is final when a cased letter stands before it and none after it. -/
def lowerSigma (before after : List Char) : Char :=
  if casedNext before && !casedNext after then '\u03C2' else '\u03C3'

def lowerChar (c : Char) : List Char :=
  if c = '\u0130' then ['i', '\u0307'] else [lowerLetter c]

/-- Lower case, with the characters already passed in `before`, nearest first. -/
def lowerFrom (before : List Char) : List Char → List Char
  | [] => []
  | c :: rest =>
    (if c = '\u03A3' then [lowerSigma before rest] else lowerChar c) ++ lowerFrom (c :: before) rest

def lowerChars (cs : List Char) : List Char := lowerFrom [] cs

def upper (s : String) : String := String.ofList (upperChars s.toList)

def lower (s : String) : String := String.ofList (lowerChars s.toList)

@[simp] theorem upperChars_nil : upperChars [] = [] := rfl

@[simp] theorem upperChars_cons (c : Char) (cs : List Char) :
    upperChars (c :: cs) = upperChar c ++ upperChars cs := rfl

@[simp] theorem lowerChars_nil : lowerChars [] = [] := rfl

end EntityScaffold.Text
