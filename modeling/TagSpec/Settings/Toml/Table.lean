import TagSpec.Settings.Value

/-!
# Tables under way

Tables as they are read, which remember how each of them came about: a table may be extended only in
the way in which it was begun, and a key is given once.
-/

namespace TagSpec.Settings.Toml

/-- How a table came about. -/
inductive Origin where
  /-- as part of the path of a header -/
  | implied
  /-- by a header of its own -/
  | header
  /-- as part of a dotted key -/
  | dotted
deriving DecidableEq, Repr

/-- What stands under a key. -/
inductive Node where
  | value (v : Value)
  | table (origin : Origin) (entries : List (String × Node))
  /-- tables with headers of one path, the last of them first -/
  | tables (items : List (List (String × Node)))
deriving Inhabited

abbrev Entries := List (String × Node)

def putNode (key : String) (n : Node) : Entries → Entries
  | [] => [(key, n)]
  | (k, m) :: es => if k = key then (k, n) :: es else (k, m) :: putNode key n es

/-- The key has the node, and every other key has what it had. -/
theorem lookup_putNode (key k : String) (n : Node) (es : Entries) :
    (putNode key n es).lookup k = if k = key then some n else es.lookup k := by
  induction es with
  | nil => by_cases h : k = key <;> simp [putNode, List.lookup_cons, h, beq_eq_false_iff_ne.2]
  | cons e es ih =>
    obtain ⟨l, m⟩ := e
    by_cases hl : l = key
    · subst hl
      by_cases hk : k = l <;> simp [putNode, List.lookup_cons, hk, beq_eq_false_iff_ne.2]
    · by_cases hk : k = l
      · subst hk
        simp [putNode, hl]
      · simp [putNode, List.lookup_cons, hl, hk, ih, beq_eq_false_iff_ne.2]

/-- Changes the table that a path leads to. Tables that are missing are made; a dotted key leads into
no table that has a header. -/
def change (dotted : Bool) (f : Origin → Entries → Option (Origin × Entries)) :
    List String → Origin → Entries → Option (Origin × Entries)
  | [], o, es => f o es
  | k :: ks, o, es =>
    match es.lookup k with
    | none =>
      (change dotted f ks (if dotted then .dotted else .implied) []).map fun (o', es') =>
        (o, putNode k (.table o' es') es)
    | some (.table o' es') =>
      if dotted && o' = .header then none
      else (change dotted f ks o' es').map fun (o', es') => (o, putNode k (.table o' es') es)
    | some (.tables (t :: ts)) =>
      (change dotted f ks .header t).map fun (_, t') => (o, putNode k (.tables (t' :: ts)) es)
    | some _ => none

/-- Puts a value under the last key of a path. -/
def putValue (path : List String) (key : String) (v : Value) (o : Origin) (es : Entries) :
    Option (Origin × Entries) :=
  change true (fun o es =>
    if decide (o = .dotted) = path.isEmpty || (es.lookup key).isSome then none
    else some (o, putNode key (.value v) es)) path o es

def beginTable (path : List String) (key : String) (es : Entries) : Option Entries :=
  (change false (fun o es =>
    match es.lookup key with
    | none => some (o, putNode key (.table .header []) es)
    | some (.table .implied inner) => some (o, putNode key (.table .header inner) es)
    | some _ => none) path .header es).map Prod.snd

/-- Begins one more table of a list of tables. -/
def beginListed (path : List String) (key : String) (es : Entries) : Option Entries :=
  (change false (fun o es =>
    match es.lookup key with
    | none => some (o, putNode key (.tables [[]]) es)
    | some (.tables ts) => some (o, putNode key (.tables ([] :: ts)) es)
    | some _ => none) path .header es).map Prod.snd

mutual

def Node.toValue : Node → Value
  | .value v => v
  | .table _ es => .table (entriesValue es)
  | .tables items => .list (tablesValue items).reverse

def entriesValue : Entries → List (String × Value)
  | [] => []
  | (k, n) :: es => (k, n.toValue) :: entriesValue es

def tablesValue : List Entries → List Value
  | [] => []
  | es :: rest => .table (entriesValue es) :: tablesValue rest

end

end TagSpec.Settings.Toml
