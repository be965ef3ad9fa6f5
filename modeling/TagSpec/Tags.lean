/-!
# Tags

The tags of a field: values by key, in the order in which the keys first appeared. Putting a value
under a key that is there replaces the value and keeps the place.
-/

namespace TagSpec

/-- The value of one tag: a name, and the options that follow it in declaration order. -/
structure TagValue where
  name : String
  options : List String
deriving DecidableEq, Repr, Inhabited

/-- Values by key; no key occurs twice. -/
structure Tags where
  entries : List (String × TagValue)
  nodup : (entries.map Prod.fst).Nodup

instance : DecidableEq Tags := fun a b =>
  if h : a.entries = b.entries then
    isTrue (by cases a; cases b; simp_all)
  else isFalse (fun e => h (by rw [e]))

namespace Tags

@[ext] theorem ext {a b : Tags} (h : a.entries = b.entries) : a = b := by
  cases a
  cases b
  simp_all

def empty : Tags := ⟨[], List.nodup_nil⟩

instance : Inhabited Tags := ⟨empty⟩

def keys (t : Tags) : List String := t.entries.map Prod.fst

def get? (t : Tags) (key : String) : Option TagValue := t.entries.lookup key

/-- Puts a value under a key: in place of the value that is there, else at the end. -/
def put (key : String) (value : TagValue) :
    List (String × TagValue) → List (String × TagValue)
  | [] => [(key, value)]
  | (k, v) :: es => if k = key then (k, value) :: es else (k, v) :: put key value es

/-- A key that is there stays where it is, and a new one comes last. -/
theorem keys_put (key : String) (value : TagValue) (es : List (String × TagValue)) :
    (put key value es).map Prod.fst =
      if key ∈ es.map Prod.fst then es.map Prod.fst else es.map Prod.fst ++ [key] := by
  induction es with
  | nil => simp [put]
  | cons e es ih =>
    obtain ⟨k, v⟩ := e
    by_cases h : k = key
    · simp [put, h]
    · simp only [put, if_neg h, List.map_cons, ih, List.mem_cons, Ne.symm h, false_or]
      split <;> simp_all

theorem nodup_put (key : String) (value : TagValue) {es : List (String × TagValue)}
    (h : (es.map Prod.fst).Nodup) : ((put key value es).map Prod.fst).Nodup := by
  rw [keys_put]
  split
  · exact h
  · next hk =>
    rw [List.nodup_append]
    refine ⟨h, by simp, ?_⟩
    intro a ha b hb e
    simp only [List.mem_singleton] at hb
    exact hk (hb ▸ e ▸ ha)

/-- Puts a value under a key. -/
def insert (t : Tags) (key : String) (value : TagValue) : Tags :=
  ⟨put key value t.entries, nodup_put key value t.nodup⟩

@[simp] theorem entries_insert (t : Tags) (key : String) (value : TagValue) :
    (t.insert key value).entries = put key value t.entries := rfl

/-- The tags of a list of keys and values, of which a later one replaces an earlier one. -/
def ofList (es : List (String × TagValue)) : Tags :=
  es.foldl (fun t e => t.insert e.1 e.2) empty

end Tags

end TagSpec
