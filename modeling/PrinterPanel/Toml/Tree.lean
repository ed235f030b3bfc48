import PrinterPanel.Toml.Value

/-!
# Tables of a document

A document is a list of sections. The first has no header; each of the others starts with the
path of a table in brackets. The lines of a section put values at paths below its table. The
sections are added one by one to a tree, which keeps of every table how it came into being, since
this decides what may still be added to it.
-/

namespace PrinterPanel.Toml

/-- A value and the path at which it is put. -/
structure Entry where
  /-- The keys that lead to the value. -/
  path : List String
  /-- The value. -/
  value : Value
  deriving Repr

/-- A table header with the lines below it. -/
structure Section where
  /-- The keys that lead to the table; none for the document itself. -/
  path : List String
  /-- Whether the table is a new element of an array of tables. -/
  isElement : Bool
  /-- The lines, in order. -/
  entries : List Entry
  deriving Repr

/-! ### Building the tables -/

/-- How a table came into being; this decides which lines may still add to it. -/
inductive Origin where
  /-- A header leads through it, but it has no header of its own yet. -/
  | passed
  /-- It stands under its own header, or in braces. -/
  | written
  /-- It was made by a key with points. -/
  | dotted
  deriving DecidableEq, Repr

/-- A table to which lines are being added. -/
inductive Tree where
  /-- A value that is complete. -/
  | leaf (v : Value)
  /-- A table with its entries in order. -/
  | table (origin : Origin) (entries : List (String × Tree))
  /-- An array of tables: the complete ones, latest first, and the one that is being filled. -/
  | tables (earlier : List Tree) (latest : Tree)
  deriving Repr

namespace Tree

/-- A table under its own header with nothing in it. -/
def empty : Tree := .table .written []

/-- What stands in a table under a key. -/
def get? (entries : List (String × Tree)) (k : String) : Option Tree :=
  entries.lookup k

/-- The entries with another tree under a key: in its place, or at the end if the key is new. -/
def put (entries : List (String × Tree)) (k : String) (t : Tree) : List (String × Tree) :=
  match entries with
  | [] => [(k, t)]
  | e :: rest => if e.1 = k then (k, t) :: rest else e :: put rest k t

/-- A value that was put under a key is found there. -/
theorem get?_put_self (entries : List (String × Tree)) (k : String) (t : Tree) :
    get? (put entries k t) k = some t := by
  induction entries with
  | nil => simp [get?, put]
  | cons e rest ih =>
    obtain ⟨key, inner⟩ := e
    unfold put
    split
    · simp [get?]
    · next h =>
      have hne : (k == key) = false := by simpa using Ne.symm h
      rw [get?, List.lookup_cons, hne]
      exact ih

/-- Putting a value under one key leaves the other keys alone. -/
theorem get?_put_of_ne (entries : List (String × Tree)) {k k' : String} (t : Tree)
    (hk : k' ≠ k) : get? (put entries k t) k' = get? entries k' := by
  have hne : (k' == k) = false := by simpa using hk
  induction entries with
  | nil => simp [get?, put, List.lookup_cons, hne]
  | cons e rest ih =>
    obtain ⟨key, inner⟩ := e
    unfold put
    split
    · next h =>
      subst h
      simp [get?, List.lookup_cons, hne]
    · rw [get?, get?, List.lookup_cons, List.lookup_cons]
      split
      · rfl
      · exact ih

/-- Change the table to which a path leads. On the way, missing tables are made, and of an array
of tables the latest element is taken. A key with points does not lead into a table that has a
header, and nothing leads into a complete value. -/
def within (dotted : Bool) (change : Tree → Option Tree) : List String → Tree → Option Tree
  | [], t => change t
  | k :: path, .table origin entries =>
    match get? entries k with
    | none => do
      let made := .table (if dotted then .dotted else .passed) []
      return .table origin (put entries k (← within dotted change path made))
    | some (.leaf _) => none
    | some (.tables earlier latest) => do
      return .table origin (put entries k (.tables earlier (← within dotted change path latest)))
    | some (.table inner below) => do
      if dotted ∧ inner = .written then none
      return .table origin (put entries k (← within dotted change path (.table inner below)))
  | _ :: _, _ => none

/-- Put a value under a key of a table. The key has to be new, and a key with points adds only to
tables that such keys have made. -/
def insert (isDotted : Bool) (k : String) (v : Value) : Tree → Option Tree
  | .table origin entries =>
    if (isDotted ∧ origin ≠ .dotted) ∨ (get? entries k).isSome then none
    else some (.table origin (put entries k (.leaf v)))
  | _ => none

/-- Add a line to a table. -/
def addEntry (t : Tree) (e : Entry) : Option Tree :=
  match e.path.getLast? with
  | none => none
  | some k => within true (insert (e.path.length != 1) k e.value) e.path.dropLast t

/-- Add the lines of a section to its table. -/
def addEntries (t : Tree) (entries : List Entry) : Option Tree :=
  entries.foldlM addEntry t

/-- Put the table of a section under a key. A table has at most one header, and a header does not
follow keys with points. -/
def open? (isElement : Bool) (k : String) (fill : Tree → Option Tree) : Tree → Option Tree
  | .table origin entries => do
    let filled ←
      match isElement, get? entries k with
      | false, none => fill empty
      | false, some (.table .passed below) => fill (.table .written below)
      | true, none => do pure (.tables [] (← fill empty))
      | true, some (.tables earlier latest) => do
        pure (.tables (latest :: earlier) (← fill empty))
      | _, _ => none
    return .table origin (put entries k filled)
  | _ => none

/-- Add a section to the document. -/
def addSection (t : Tree) (s : Section) : Option Tree :=
  match s.path.getLast? with
  | none => t.addEntries s.entries
  | some k => within false (open? s.isElement k (·.addEntries s.entries)) s.path.dropLast t

mutual

/-- The value that a tree stands for. -/
def toValue : Tree → Value
  | .leaf v => v
  | .table _ entries => .table (entriesToValues entries)
  | .tables earlier latest => .list ((elementsToValues earlier).reverse ++ [toValue latest])

/-- The values that the trees of a table stand for. -/
def entriesToValues : List (String × Tree) → List (String × Value)
  | [] => []
  | (k, t) :: rest => (k, toValue t) :: entriesToValues rest

/-- The values that some trees stand for. -/
def elementsToValues : List Tree → List Value
  | [] => []
  | t :: rest => toValue t :: elementsToValues rest

end

end Tree

end PrinterPanel.Toml
