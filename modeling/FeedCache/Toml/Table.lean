/-
This file collects the keys of a document in tables.

A table is named by a header, implied by the header of a table below it, or named by the dotted
keys of its entries, and each of these forms may be extended in other ways.
-/
import FeedCache.Toml.Scalar

namespace FeedCache.Toml

/-- How a table has come to be. -/
inductive Form where
  | named
  | implied
  | dotted
  deriving DecidableEq

/-- An entry of a table is a value, a table, or a list of tables of which only the last one can
still grow. -/
inductive Item where
  | value (value : Value)
  | table (form : Form) (entries : List (List Char × Item))
  | tables (last : List (List Char × Item))

abbrev Entries := List (List Char × Item)

def Entries.find? (entries : Entries) (key : List Char) : Option Item := entries.lookup key

def Entries.erase (entries : Entries) (key : List Char) : Entries :=
  entries.filter fun entry => entry.1 != key

def Entries.replace (entries : Entries) (key : List Char) (item : Item) : Entries :=
  entries.erase key ++ [(key, item)]

/-- The table at the end of a path is changed. Missing tables are made on the way, as implied or
dotted ones; dotted keys do not lead into a table that a header names. -/
def update (byDots : Bool) (change : Form → Entries → Option Entries) :
    List (List Char) → Form → Entries → Option Entries
  | [], form, entries => change form entries
  | key :: path, _, entries =>
      match entries.find? key with
      | none =>
          let form := if byDots then .dotted else .implied
          (update byDots change path form []).map fun inner => entries.replace key (.table form inner)
      | some (.value _) => none
      | some (.tables last) =>
          (update byDots change path .named last).map fun inner => entries.replace key (.tables inner)
      | some (.table form inner) =>
          if byDots = true ∧ form = .named then none
          else (update byDots change path form inner).map fun inner =>
            entries.replace key (.table form inner)

/-- A dotted key with its value goes into a table. No key is given twice, and a table that dots
have made grows by dots only. -/
def Entries.put (entries : Entries) (key : List (List Char)) (value : Value) : Option Entries :=
  let path := key.dropLast
  update true
    (fun form inner =>
      if (form = .dotted) = (path = []) then none
      else match key.getLast? with
        | none => none
        | some last =>
            if (inner.find? last).isSome then none else some (inner ++ [(last, .value value)]))
    path .named entries

/-- The entries of the table at the end of a path, if there is one. -/
def Entries.follow (entries : Entries) : List (List Char) → Entries
  | [] => entries
  | key :: path =>
      match entries.find? key with
      | some (.table _ inner) => follow inner path
      | some (.tables last) => follow last path
      | _ => []

/-- What has been read of a document: the tables that are complete, and the one that is open. -/
structure Outline where
  root : Entries
  path : List (List Char)
  listed : Bool
  current : Entries

def Outline.empty : Outline := ⟨[], [], false, []⟩

/-- The open table takes its place among the others. -/
def Outline.close (outline : Outline) : Option Entries :=
  match outline.path.getLast? with
  | none => some outline.current
  | some last =>
      let item := if outline.listed then .tables outline.current else .table .named outline.current
      update false (fun _ entries => some (entries.replace last item)) outline.path.dropLast .named
        outline.root

/-- A header opens a table. A table is named once, and only an implied one may be there already. -/
def Outline.openTable (outline : Outline) (path : List (List Char)) : Option Outline := do
  let root ← outline.close
  let last ← path.getLast?
  let rest ← update false
    (fun _ entries => match entries.find? last with
      | none => some entries
      | some (.table .implied _) => some (entries.erase last)
      | _ => none)
    path.dropLast .named root
  some ⟨rest, path, false, root.follow path⟩

/-- A header in double brackets opens the next table of a list. -/
def Outline.openListed (outline : Outline) (path : List (List Char)) : Option Outline := do
  let root ← outline.close
  let last ← path.getLast?
  let rest ← update false
    (fun _ entries => match entries.find? last with
      | none => some (entries.replace last (.tables []))
      | some (.tables _) => some entries
      | _ => none)
    path.dropLast .named root
  some ⟨rest, path, true, []⟩

def Outline.put (outline : Outline) (key : List (List Char)) (value : Value) : Option Outline :=
  (outline.current.put key value).map fun current => { outline with current }

end FeedCache.Toml
