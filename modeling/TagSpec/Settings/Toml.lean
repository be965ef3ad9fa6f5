import TagSpec.Settings.Toml.Table
import TagSpec.Settings.Toml.Text
import TagSpec.Settings.Toml.Scalar

/-!
# Settings files

Settings files are TOML. A file is read line by line into a tree of tables, and each line either
begins a table, gives a key its value, or says nothing.
-/

namespace TagSpec.Settings.Toml

-- ---------------------------------------------------------------------------
-- Values
-- ---------------------------------------------------------------------------

mutual

def readValue : Nat → List Char → Option (Value × List Char)
  | 0, _ => none
  | fuel + 1, cs =>
    match cs with
    | '"' :: _ | '\'' :: _ =>
      (readString cs).map fun (text, rest) => (.string (String.ofList text), rest)
    | '[' :: r => (readItems fuel r).map fun (vs, rest) => (.list vs, rest)
    | '\x7b' :: r =>
      match skipBlanks r with
      | '\x7d' :: rest => some (.table [], rest)
      | r =>
        (readPairs fuel [] r).map fun (es, rest) => (.table (entriesValue es), rest)
    | _ => readScalar cs

def readItems : Nat → List Char → Option (List Value × List Char)
  | 0, _ => none
  | fuel + 1, cs =>
    match skipLines cs.length cs with
    | ']' :: rest => some ([], rest)
    | cs =>
      match readValue fuel cs with
      | none => none
      | some (v, rest) =>
        match skipLines rest.length rest with
        | ',' :: rest => (readItems fuel rest).map fun (vs, rest) => (v :: vs, rest)
        | ']' :: rest => some ([v], rest)
        | _ => none

def readPairs : Nat → Entries → List Char → Option (Entries × List Char)
  | 0, _, _ => none
  | fuel + 1, es, cs =>
    match readKey (cs.length + 1) cs with
    | some (path, '=' :: r) =>
      match readValue fuel (skipBlanks r), path.getLast? with
      | some (v, rest), some key =>
        match putValue path.dropLast key v .header es with
        | none => none
        | some (_, es) =>
          match skipBlanks rest with
          | ',' :: rest => readPairs fuel es rest
          | '\x7d' :: rest => some (es, rest)
          | _ => none
      | _, _ => none
    | _ => none

end


-- ---------------------------------------------------------------------------
-- Files
-- ---------------------------------------------------------------------------

/-- What has been read of a file: its tree, and the path of the table that is open. -/
structure Progress where
  entries : Entries
  path : List String

/-- Reads a header behind its first bracket. -/
def readHeader (p : Progress) (cs : List Char) : Option (Progress × List Char) :=
  let (listed, cs) := match cs with
    | '[' :: r => (true, r)
    | _ => (false, cs)
  match readKey (cs.length + 1) cs with
  | none => none
  | some (path, rest) =>
    let closed := if listed then dropStart? [']', ']'] rest else dropStart? [']'] rest
    match closed, path.getLast? with
    | some rest, some key =>
      let begin' := if listed then beginListed else beginTable
      (begin' path.dropLast key p.entries).map fun es => (⟨es, path⟩, rest)
    | _, _ => none

def readPair (p : Progress) (cs : List Char) : Option (Progress × List Char) :=
  match readKey (cs.length + 1) cs with
  | some (path, '=' :: r) =>
    match readValue (r.length + 1) (skipBlanks r), path.getLast? with
    | some (v, rest), some key =>
      (change false (putValue path.dropLast key v) p.path .header p.entries).map fun (_, es) =>
        ({ p with entries := es }, rest)
    | _, _ => none
  | _ => none

/-- Reads lines up to the end of the text. -/
def readLines : Nat → Progress → List Char → Option Progress
  | 0, _, _ => none
  | fuel + 1, p, cs =>
    let cs := skipBlanks cs
    let line := match cs with
      | '[' :: r => readHeader p r
      | [] => some (p, [])
      | '#' :: _ | '\n' :: _ | '\r' :: _ => some (p, cs)
      | _ => readPair p cs
    match line with
    | none => none
    | some (p, rest) =>
      match skipComment (skipBlanks rest) with
      | [] => some p
      | rest =>
        match newline? rest with
        | some next => readLines fuel p next
        | none => none

/-- The settings that a file says, if it is well formed. -/
def parse (text : List Char) : Option Value :=
  let body := match text with
    | c :: cs => if c = '\uFEFF' then cs else text
    | [] => []
  (readLines (body.length + 1) ⟨[], []⟩ body).map fun p => .table (entriesValue p.entries)

end TagSpec.Settings.Toml
