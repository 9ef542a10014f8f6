/-
# Domain names

A domain name is a list of labels between full stops.  A text names a domain if its characters can
be spelled, none of them is forbidden then, and every label holds what labels may hold.
-/

import QueryConsole.Url.Domain.Label

namespace QueryConsole
namespace Domain

/-- Characters that no host may contain. -/
def isForbiddenInHost (c : Char) : Bool :=
  ['\x00', '\t', '\n', '\r', ' ', '#', '/', ':', '<', '>', '?', '@', '[', '\\', ']', '^',
    '|'].contains c

/-- Characters that no domain name may contain. -/
def isForbidden (c : Char) : Bool :=
  isForbiddenInHost c || c.toNat < 0x20 || c = '%' || c.toNat = 0x7F

/-- Whether the labels of a name may stand together. -/
def areLabels (labels : List (List Char)) : Bool :=
  match labels.mapM characters? with
  | none => false
  | some labels =>
    labels.all isLabel &&
      (!isMixed labels || labels.all fun cs => hasOneDirection (cs.map Direction.ofChar))

/-- The name of the domain that a text names. -/
def ofText? (cs : List Char) : Option (List Char) :=
  (cs.mapM spell?).bind fun spelled =>
    let name := Composition.compose spelled.flatten
    if name.any isForbidden ∨ !areLabels (name.splitOn '.') then none else some name

end Domain
end QueryConsole
