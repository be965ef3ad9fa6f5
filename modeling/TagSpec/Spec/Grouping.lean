import TagSpec.Declaration
import TagSpec.Spec

/-!
# Grouping by tag key

The fields of a struct gathered under the keys of their tags. Keys are gathered in the order in
which they are met, and groups are then put in order of their display names, of which equal ones
stay in the order of their keys.
-/

namespace TagSpec

/-- A key with its first character in upper case. Only letters of ASCII have an upper case here. -/
def displayName (key : String) : String :=
  match key.toList with
  | [] => ""
  | c :: cs => String.ofList (c.toUpper :: cs)

/-- Entries by key, in the order in which the keys were met. -/
abbrev Gathered := List (String × List Entry)

/-- Adds an entry under a key, behind those that are there. -/
def Gathered.add (key : String) (entry : Entry) : Gathered → Gathered
  | [] => [(key, [entry])]
  | (k, es) :: gs =>
    if k = key then (k, es ++ [entry]) :: gs else (k, es) :: Gathered.add key entry gs

/-- Adds a field under each of its keys. -/
def Gathered.addField (gs : Gathered) (f : Field) : Gathered :=
  f.tags.entries.foldl (fun gs e => Gathered.add e.1 ⟨f.name, e.2.name⟩ gs) gs

def Struct.gathered (s : Struct) : Gathered := s.fields.foldl Gathered.addField []

/-- Whether a key is among the requested ones; no request asks for every key. -/
def isRequested (requested : List String) (key : String) : Bool :=
  requested.isEmpty || requested.contains key

/-- The order of groups. -/
def Group.le (a b : Group) : Bool := decide (a.displayName ≤ b.displayName)

/-- The spec of a struct, with the requested keys only. -/
def Struct.spec (requested : List String) (s : Struct) : Spec :=
  let groups := (s.gathered.filter fun g => isRequested requested g.1).map fun g =>
    (⟨displayName g.1, g.2⟩ : Group)
  ⟨s.name, groups.mergeSort Group.le⟩

end TagSpec
