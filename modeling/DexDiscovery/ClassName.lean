import DexDiscovery.Failure

/-!
# Class names

A class has two spellings: its **descriptor** `Lcom/example/FooTest;` in an image, and its dotted
name `com.example.FooTest` in test identifiers, where a separator and a method name follow it.
Nested classes keep their `$`.
-/

namespace DexDiscovery

/-- How classes are written in test identifiers: the name of a class with its separator, or a
refusal of the descriptor. -/
abbrev ClassNamer := Text → Except Failure Text

namespace ClassName

/-- The separator of a test identifier where none is chosen. -/
def defaultSeparator : Text := "#"

/-- Whether a descriptor has the form `L…;` of a class, with something in between. -/
def isClassDescriptor (descriptor : Text) : Bool :=
  3 ≤ descriptor.length && descriptor.head? == some 'L' && descriptor.getLast? == some .semicolon

/-- The dotted name of a class, from the descriptor, with a separator after it. -/
def dotted (separator descriptor : Text) : Except Failure Text :=
  if isClassDescriptor descriptor then
    .ok (Text.replaceAll .slash .point (descriptor.drop 1).dropLast ++ separator)
  else .error (.notClassDescriptor descriptor)

/-- Names no class: what is not the descriptor of one is refused for that, and all others for a
given cause. -/
def unnamed (cause : Failure) (descriptor : Text) : Except Failure Text :=
  (dotted [] descriptor).bind fun _ => .error cause

/-- The descriptor of a class given by its dotted name or by its descriptor. -/
def toDescriptor (name : Text) : Text :=
  if name.head? = some 'L' ∧ name.getLast? = some .semicolon then name
  else 'L' :: (Text.replaceAll .point .slash name ++ [.semicolon])

end ClassName

end DexDiscovery
