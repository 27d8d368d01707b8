/-!
# Kinds of reflective calls

The reflective primitives that a trace tells apart, in the fixed order in which
logs are sorted, and the name of each in a trace line.
-/

namespace TraceAgent.Trace

/-- A reflective primitive. -/
inductive Kind where
  | classForName
  | classNewInstance
  | classGetMethod
  | classGetDeclaredMethod
  | classGetMethods
  | classGetDeclaredMethods
  | classGetConstructor
  | classGetDeclaredConstructor
  | constructorNewInstance
  | methodInvoke
  deriving DecidableEq, Repr, Inhabited

namespace Kind

/-- The kinds, in their fixed order. -/
def all : List Kind :=
  [classForName, classNewInstance, classGetMethod, classGetDeclaredMethod, classGetMethods,
    classGetDeclaredMethods, classGetConstructor, classGetDeclaredConstructor,
    constructorNewInstance, methodInvoke]

/-- The place of a kind in the fixed order. -/
def rank : Kind → Nat
  | classForName => 0
  | classNewInstance => 1
  | classGetMethod => 2
  | classGetDeclaredMethod => 3
  | classGetMethods => 4
  | classGetDeclaredMethods => 5
  | classGetConstructor => 6
  | classGetDeclaredConstructor => 7
  | constructorNewInstance => 8
  | methodInvoke => 9

/-- The name of a kind in a trace line. -/
def name : Kind → String
  | classForName => "Class.forName"
  | classNewInstance => "Class.newInstance"
  | classGetMethod => "Class.getMethod"
  | classGetDeclaredMethod => "Class.getDeclaredMethod"
  | classGetMethods => "Class.getMethods"
  | classGetDeclaredMethods => "Class.getDeclaredMethods"
  | classGetConstructor => "Class.getConstructor"
  | classGetDeclaredConstructor => "Class.getDeclaredConstructor"
  | constructorNewInstance => "Constructor.newInstance"
  | methodInvoke => "Method.invoke"

/-- The kind with a given name. -/
def ofName? (name : String) : Option Kind := all.find? fun k => k.name = name

/-- A kind is found by its name. -/
theorem ofName?_name (k : Kind) : ofName? k.name = some k := by cases k <;> decide

/-- Only the name of a kind is read as that kind. -/
theorem name_of_ofName? {name : String} {k : Kind} (h : ofName? name = some k) :
    k.name = name := by
  simpa using List.find?_some h

/-- Different kinds have different places. -/
theorem rank_injective {a b : Kind} (h : a.rank = b.rank) : a = b := by
  cases a <;> cases b <;> first | rfl | exact absurd h (by decide)

end Kind

end TraceAgent.Trace
