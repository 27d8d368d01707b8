/-!
# Paths

A path is the text by which a file is named, kept as it was written: nothing is
normalised. `Path.join` appends, `Path.parents` takes components away from the end,
and both leave the rest of the text as it stands.
-/

namespace TraceAgent

/-- The name of a file or directory, as it was written. -/
structure Path where
  text : String
  deriving DecidableEq, Repr, Inhabited

namespace Path

/-- Whether a path starts at the root. -/
def isAbsolute (p : Path) : Bool := p.text.toList.head? = some '/'

/-- The characters of `base` followed by those of `tail`, with one separator
    between them where `base` has none at its end. -/
def joinChars (base tail : List Char) : List Char :=
  match base.getLast? with
  | none => tail
  | some '/' => base ++ tail
  | some _ => base ++ '/' :: tail

/-- The path `tail`, taken from the directory `base`; an absolute `tail` stands
    for itself. -/
def join (base : Path) (tail : String) : Path :=
  if tail.toList.head? = some '/' then ⟨tail⟩
  else ⟨String.ofList (joinChars base.text.toList tail.toList)⟩

/-- Whether a part between separators names nothing: it is empty or a dot. -/
def isVoid (part : List Char) : Bool := part = [] || part = ['.']

/-- What a path begins with before its parts: the root, or a leading dot. -/
def anchor (chars : List Char) : List Char :=
  match chars with
  | '/' :: _ => ['/']
  | ['.'] => ['.']
  | '.' :: '/' :: _ => ['.']
  | _ => []

/-- The parts of a path after its anchor, the last first. -/
def partsBackward (chars : List Char) : List (List Char) :=
  ((chars.drop (anchor chars).length).splitOn '/').reverse

/-- The paths above the parts given, the last part first. Void parts next to the
    part taken away go with it; a leading dot is itself below the empty path, and
    the root below none. -/
def above (anchor : List Char) : List (List Char) → List Path
  | [] => if anchor = ['.'] then [⟨""⟩] else []
  | part :: before =>
    if isVoid part then above anchor before
    else
      let kept := (before.dropWhile isVoid).reverse
      ⟨String.ofList (anchor ++ ['/'].intercalate kept)⟩ :: above anchor before

/-- The path without its last component, without its last two, and so on. -/
def parents (p : Path) : List Path :=
  let chars := p.text.toList
  above (anchor chars) (partsBackward chars)

/-- The path without its last component, if it has one. -/
def parent (p : Path) : Option Path := p.parents.head?

end Path

end TraceAgent
