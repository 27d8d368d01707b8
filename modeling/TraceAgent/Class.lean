import TraceAgent.Text.Numeral

/-!
# Classes and their identity

A class is known by its internal name, `java/lang/String`, and by the loader
that defined it. Loaders other than the bootstrap loader are told apart by their
identity hash. `LoadedClass` is what a host says of a class that it has loaded.
-/

namespace TraceAgent

/-- The loader that defined a class. -/
inductive Loader where
  | bootstrap
  /-- A loader object, by its identity hash. -/
  | object (hash : Int32)
  deriving DecidableEq, Repr, Inhabited

namespace Loader

/-- The hash of a loader object. -/
def hash? : Loader → Option Int32
  | bootstrap => none
  | object hash => some hash

/-- The bootstrap loader comes before the loader objects, which are ordered by
    their hashes as signed numbers. -/
instance : Ord Loader where
  compare := compareOn hash?

instance : Std.TransOrd Loader := inferInstanceAs (Std.TransCmp (compareOn hash?))

/-- Only equal loaders have the same place in the order. -/
instance : Std.LawfulEqOrd Loader where
  eq_of_compare {a b} h := by
    have h : a.hash? = b.hash? := Std.LawfulEqOrd.eq_of_compare (α := Option Int32) h
    cases a <;> cases b <;> simp_all [hash?]

end Loader

/-- What tells a class from all others. -/
structure ClassIdentity where
  /-- The internal name, `java/lang/String`. -/
  name : String
  loader : Loader
  deriving DecidableEq, Repr, Inhabited

namespace ClassIdentity

/-- Identities are ordered by name, then by loader. -/
instance : Ord ClassIdentity where
  compare := compareLex (compareOn (·.name)) (compareOn (·.loader))

instance : Std.TransOrd ClassIdentity :=
  inferInstanceAs <| Std.TransCmp <|
    compareLex (compareOn fun c : ClassIdentity => c.name) (compareOn (·.loader))

/-- Only equal identities have the same place in the order. -/
instance : Std.LawfulEqOrd ClassIdentity where
  eq_of_compare {a b} h := by
    obtain ⟨an, al⟩ := a
    obtain ⟨bn, bl⟩ := b
    obtain ⟨hn, hl⟩ := Ordering.then_eq_eq.1 h
    have hn : an = bn := Std.LawfulEqOrd.eq_of_compare hn
    have hl : al = bl := Std.LawfulEqOrd.eq_of_compare hl
    rw [hn, hl]

/-- The identity as it is shown: the name alone for the bootstrap loader, with
    the hash of the loader in eight hexadecimal digits for the others. -/
def display (c : ClassIdentity) : String :=
  match c.loader with
  | .bootstrap => c.name
  | .object hash =>
    c.name ++ "@" ++ String.ofList (Text.hexadecimal 8 hash.toUInt32.toNat)

end ClassIdentity

/-- The kinds of classes. -/
inductive ClassKind where
  | primitive
  | array
  | object
  deriving DecidableEq, Repr, Inhabited

/-- The kind of the class with a given type signature. -/
def ClassKind.ofSignature (signature : String) : ClassKind :=
  match signature.toList with
  | '[' :: _ => array
  | 'L' :: _ => object
  | _ => primitive

/-- The handle by which a host knows one of its classes. -/
abbrev ClassRef := Nat

/-- A class that a host reports as loaded. -/
structure LoadedClass where
  ref : ClassRef
  identity : ClassIdentity
  kind : ClassKind
  modifiable : Bool
  deriving DecidableEq, Repr, Inhabited

/-- Whether a name is that of a class of the core runtime. -/
def isPlatformCoreName (name : String) : Bool := "java/lang/".toList.isPrefixOf name.toList

/-- Whether a class belongs to the core runtime. -/
def LoadedClass.isPlatformCore (c : LoadedClass) : Bool := isPlatformCoreName c.identity.name

end TraceAgent
