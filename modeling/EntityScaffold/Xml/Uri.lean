/-!
References to resources, read for their form: an absolute one begins with a scheme, a relative one
does not. In an authority the host may be bracketed, four octets, or a name; a port is never empty.
Only ASCII characters stand for themselves.
-/
namespace EntityScaffold.Xml.Uri

def isUnreserved (c : Char) : Bool := c.isAlphanum || ['-', '.', '_', '~'].contains c

def isDelimiter (c : Char) : Bool :=
  ['!', '$', '&', '\x27', '(', ')', '*', '+', ',', ';', '='].contains c

def isHexDigit (c : Char) : Bool :=
  c.isDigit || ('a' ≤ c && c ≤ 'f') || ('A' ≤ c && c ≤ 'F')

def character? (isAllowed : Char → Bool) : List Char → Option (List Char)
  | '%' :: a :: b :: rest => if isHexDigit a && isHexDigit b then some rest else none
  | c :: rest => if isAllowed c then some rest else none
  | [] => none

theorem length_character {isAllowed : Char → Bool} {cs rest : List Char}
    (h : character? isAllowed cs = some rest) : rest.length < cs.length := by
  unfold character? at h
  split at h
  · split at h
    · cases h
      simp
      omega
    · cases h
  · split at h
    · cases h
      simp
    · cases h
  · cases h

def skip (isAllowed : Char → Bool) (cs : List Char) : List Char :=
  match _h : character? isAllowed cs with
  | some rest => skip isAllowed rest
  | none => cs
termination_by cs.length
decreasing_by exact length_character _h

def isNameCharacter (c : Char) : Bool := isUnreserved c || isDelimiter c

def isUserCharacter (c : Char) : Bool := isNameCharacter c || c == ':'

def isPathCharacter (c : Char) : Bool := isUserCharacter c || c == '@'

def isQueryCharacter (c : Char) : Bool := isPathCharacter c || c == '/' || c == '?'

def isFragmentCharacter (c : Char) : Bool := isQueryCharacter c || c == '[' || c == ']'

def isOpeningCharacter (c : Char) : Bool := isPathCharacter c && c != ':'

def isSegmentsCharacter (c : Char) : Bool := isPathCharacter c || c == '/'

def segments (cs : List Char) : List Char :=
  match cs with
  | '/' :: _ => skip isSegmentsCharacter cs
  | _ => cs

def path (isFirst : Char → Bool) (cs : List Char) : List Char := segments (skip isFirst cs)

/-- The rest after a number of at most three digits that a byte can hold. -/
def octet? : List Char → Option (List Char)
  | a :: b :: c :: rest =>
    if !a.isDigit then none
    else if !b.isDigit then some (b :: c :: rest)
    else if !c.isDigit then if a == '0' then none else some (c :: rest)
    else if a == '1' then some rest
    else if a == '2' && b ≤ '4' then some rest
    else if a == '2' && b == '5' then some rest
    else none
  | [a, b] => if !a.isDigit then none else if !b.isDigit then some [b]
    else if a == '0' then none else some []
  | [a] => if a.isDigit then some [] else none
  | [] => none

def point? : List Char → Option (List Char)
  | '.' :: rest => some rest
  | _ => none

def octets? (cs : List Char) : Option (List Char) := do
  let cs ← point? (← octet? cs)
  let cs ← point? (← octet? cs)
  let cs ← point? (← octet? cs)
  octet? cs

def host? (cs : List Char) : Option (List Char) :=
  match cs with
  | '[' :: rest =>
    match rest.dropWhile (· != ']') with
    | _ :: after => some after
    | [] => none
  | cs =>
    match octets? cs with
    | some rest => some rest
    | none => some (skip isNameCharacter cs)

def portLimit : Nat := 2147483647

def digitsValue (ds : List Char) : Nat := ds.foldl (fun n d => n * 10 + (d.toNat - 48)) 0

def port? (cs : List Char) : Option (List Char) :=
  let digits := cs.takeWhile Char.isDigit
  if digits.isEmpty || portLimit < digitsValue digits then none
  else some (cs.dropWhile Char.isDigit)

def afterUser (cs : List Char) : List Char :=
  match skip isUserCharacter cs with
  | '@' :: rest => rest
  | _ => cs

def authority? (cs : List Char) : Option (List Char) := do
  match ← host? (afterUser cs) with
  | ':' :: rest => port? rest
  | rest => some rest

def hierarchy? (isFirst : Char → Bool) : List Char → Option (List Char)
  | '/' :: '/' :: rest => (authority? rest).map segments
  | '/' :: rest => some (path isPathCharacter rest)
  | cs => some (path isFirst cs)

def afterQuery : List Char → List Char
  | '?' :: rest => skip isQueryCharacter rest
  | cs => cs

def afterFragment : List Char → List Char
  | '#' :: rest => skip isFragmentCharacter rest
  | cs => cs

/-- Whether what follows a scheme, if there is one, is all of the right form. -/
def isWhole (isFirst : Char → Bool) (cs : List Char) : Bool :=
  match hierarchy? isFirst cs with
  | some rest => (afterFragment (afterQuery rest)).isEmpty
  | none => false

def isSchemeCharacter (c : Char) : Bool := c.isAlphanum || ['+', '-', '.'].contains c

def isAbsolute (cs : List Char) : Bool :=
  match cs with
  | c :: rest =>
    match rest.dropWhile isSchemeCharacter with
    | ':' :: after => c.isAlpha && isWhole isPathCharacter after
    | _ => false
  | [] => false

/-- The first segment of a relative reference holds no colon, which would make it a scheme. -/
def isRelative (cs : List Char) : Bool := isWhole isOpeningCharacter cs

def isReference (cs : List Char) : Bool := isAbsolute cs || isRelative cs

end EntityScaffold.Xml.Uri
