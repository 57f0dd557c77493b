import PartitionSize.Toml.Value

/-!
# Adding to tables

A document is read line by line into one table. A header opens a table, or one more table of an
array; a key with a value adds an entry to the table that was opened last. What is already there
decides whether that is allowed:

* nothing is ever defined twice;
* a header may open a table that only headers of inner tables have implied so far;
* a dotted key adds to tables of dotted keys only. On its way it may also go through an implied
  table, or through the last table of an array of `[[…]]` headers, but not end there;
* nothing is added to a value in braces or brackets.

A table keeps the key that it was first reached by, until it gets a header of its own.
-/

namespace PartitionSize.Toml

namespace Entries

/-- The value of a key. -/
def get? (es : Entries) (k : String) : Option Node :=
  (es.find? fun e => e.1.name == k).map (·.2)

/-- The entries with the value of a key replaced, which keeps its place, or with the key added at
the end. -/
def set (es : Entries) (k : Key) (v : Node) : Entries :=
  match es with
  | [] => [(k, v)]
  | e :: es => if e.1.name = k.name then (e.1, v) :: es else e :: set es k v

/-- The entries without a key. -/
def erase (es : Entries) (k : String) : Entries := es.filter fun e => e.1.name != k

/-- The last of some tables, changed. -/
def changeLast (change : Entries → Option Entries) : List Node → Option (List Node)
  | [] => none
  | [.mk span (.table kind es)] => do
    let es ← change es
    some [.mk span (.table kind es)]
  | [_] => none
  | v :: vs => do
    let vs ← changeLast change vs
    some (v :: vs)

/-- The entries with a value under a dotted key, whose parts but the last are given first. -/
def addDotted (es : Entries) (last : Key) (v : Node) : List Key → Option Entries
  | [] => if (es.get? last.name).isSome then none else some (es.set last v)
  | k :: ks =>
    match es.get? k.name with
    | none => do
      let inner ← addDotted [] last v ks
      some (es.set k (.mk k.span (.table .dotted inner)))
    | some (.mk span (.table kind inner)) =>
      if kind = .dotted ∨ kind = .implied ∧ ks ≠ [] then do
        let inner ← addDotted inner last v ks
        some (es.set k (.mk span (.table kind inner)))
      else none
    | some (.mk span (.array true tables)) =>
      if ks = [] then none
      else do
        let tables ← changeLast (fun inner => addDotted inner last v ks) tables
        some (es.set k (.mk span (.array true tables)))
    | some _ => none

/-- The entries with the table changed that a header's parts lead to. Tables on the way that are
not there are implied; of an array of tables the last one counts. -/
def changeAt (change : Entries → Option Entries) (es : Entries) : List Key → Option Entries
  | [] => change es
  | k :: ks =>
    match es.get? k.name with
    | none => do
      let inner ← changeAt change [] ks
      some (es.set k (.mk k.span (.table .implied inner)))
    | some (.mk span (.table kind inner)) =>
      if kind = .braces then none
      else do
        let inner ← changeAt change inner ks
        some (es.set k (.mk span (.table kind inner)))
    | some (.mk span (.array true tables)) => do
      let tables ← changeLast (fun inner => changeAt change inner ks) tables
      some (es.set k (.mk span (.array true tables)))
    | some _ => none

/-- The entries with a table opened by the header at `span`. -/
def openTable (span : Span) (last : Key) (es : Entries) : Option Entries :=
  match es.get? last.name with
  | none => some (es.set last (.mk span (.table .header [])))
  | some (.mk _ (.table .implied inner)) =>
    some ((es.erase last.name).set last (.mk span (.table .header inner)))
  | some _ => none

/-- The entries with one more table in an array of tables, opened by the header at `span`. -/
def openItem (span : Span) (last : Key) (es : Entries) : Option Entries :=
  let item := Node.mk span (.table .header [])
  match es.get? last.name with
  | none => some (es.set last (.mk span (.array true [item])))
  | some (.mk first (.array true tables)) =>
    some (es.set last (.mk first (.array true (tables ++ [item]))))
  | some _ => none

end Entries

end PartitionSize.Toml
